import NdtSlam.Safety.TemporalBacking
import NdtSlam.Alarm.Freshness
import NdtSlam.Motion.StationaryExit
import NdtSlam.StaticEvidence.FreeObservations
import NdtSlam.MapSession.SessionIntegrity
import NdtSlam.Swing.LatchRelease
import NdtSlam.Localization.FitnessCircuitRuns
import NdtSlam.LiftOrigin.Confirmation
import NdtSlam.HookLoad.Freshness
import NdtSlam.StaticEvidence.Maturity
import NdtSlam.Cargo.GeometryAuthority
import NdtSlam.Operations.WatchdogContinuity
import NdtSlam.Operations.ServiceExit
import NdtSlam.Motion.SlowEvidence
import NdtSlam.Merger.StampOrder
import NdtSlam.Obstacle.PerceptionCoverage
import NdtSlam.Motion.EkfBounds
import NdtSlam.Operations.RestartBudget
import NdtSlam.GlobalMap.RebuildCompleteness
import NdtSlam.StaticEvidence.Suspension
import NdtSlam.MapSession.Sha256Digest
import NdtSlam.StaticEvidence.QuerySoundness
import NdtSlam.TileStore.DurableRelease
import NdtSlam.Identity.BundleContract
import NdtSlam.Identity.CanonicalGrouping
import NdtSlam.Localization.PoseReliability
import NdtSlam.Identity.LiftCounter
import NdtSlam.Cargo.UpwardJumps
import NdtSlam.Avoidance.PositiveWarnings
import NdtSlam.Safety.FrameDecision
import NdtSlam.Obstacle.CanonicalOrder
import NdtSlam.Obstacle.FrozenTracks
import NdtSlam.Motion.CatchUp
import NdtSlam.HookLoad.NoCargoEvidence
import NdtSlam.Obstacle.PendingAuthorization
import NdtSlam.Localization.CanonicalIdentity
import NdtSlam.TileStore.InterruptedFlush
import NdtSlam.CleanMap.HiddenStructure
import NdtSlam.MapSession.YawNormalization
import NdtSlam.Cargo.PresenceStateMachine
import NdtSlam.Localization.CranePoseConstraint
import NdtSlam.Cargo.ComponentFusion
import NdtSlam.Cargo.PendingSelfEvidence
import NdtSlam.StaticEvidence.HeightLayers
import NdtSlam.Human.FrameCounts
import NdtSlam.Localization.RailPoseGraph
import NdtSlam.CleanMap.RestoredCells
import NdtSlam.Cargo.SweptCargo
import NdtSlam.Identity.OwnerCliques
import NdtSlam.Cargo.LiveObbFilter
import NdtSlam.Identity.HighestBand
