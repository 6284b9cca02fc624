import Mathlib.Tactic.TypeStar

/-! How the static map may be used, depending on where it comes from. -/

namespace NdtSlam

inductive StaticEvidenceAuthority where
  | runtimeMature
  | operatorApprovedBaseline
  | unverifiedLoadedClean
  deriving DecidableEq

structure StaticEvidenceAuthorization where
  diagnosticHeightAllowed : Bool := true
  formalOriginAuthorized : Bool := false
  formalThicknessAuthorized : Bool := false
  officialStaticRiskAuthorized : Bool := false
  officialClearAuthorized : Bool := false

def authorizeStaticEvidence (authority : StaticEvidenceAuthority) : StaticEvidenceAuthorization :=
  let formal := authority == .runtimeMature || authority == .operatorApprovedBaseline
  { formalOriginAuthorized := formal, formalThicknessAuthorized := formal
    officialStaticRiskAuthorized := formal, officialClearAuthorized := formal }

end NdtSlam
