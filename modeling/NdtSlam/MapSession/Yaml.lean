import NdtSlam.Foundation.Outcome
import NdtSlam.Foundation.Scalar

/-! Documents of nested keys, as the manifests of map sessions are read. -/

namespace NdtSlam

inductive YamlNode where
  | absent (key : String)
  | null
  | scalar (text : String)
  | sequence (items : List YamlNode)
  | map (entries : List (String × YamlNode))

structure YamlLibrary where
  load : List UInt8 → Except String YamlNode
  nullText : Option String
  toUInt32 : String → Option Nat
  toUInt64 : String → Option Nat
  toBool : String → Option Bool
  toDouble : String → Option Scalar
  toFloat : String → Option Scalar
  invalidNode : String → String
  badSubscript : String → String
  badConversion : String

namespace YamlNode

def isDefined : YamlNode → Bool
  | .absent _ => false
  | _ => true

def child (library : YamlLibrary) (node : YamlNode) (key : String) : Except String YamlNode :=
  match node with
  -- Only a node that is there can be searched.
  | .absent missing => .error (library.invalidNode missing)
  | .scalar _ => .error (library.badSubscript key)
  | .null | .sequence _ => .ok (.absent key)
  | .map entries =>
    match entries.find? fun entry => entry.1 == key with
    | some entry => .ok entry.2
    | none => .ok (.absent key)

def asText (library : YamlLibrary) (default : String) : YamlNode → String
  | .scalar text => text
  | .null => library.nullText.getD default
  | _ => default

def asValue {Value : Type} (convert : String → Option Value) (default : Value) :
    YamlNode → Value
  | .scalar text => (convert text).getD default
  | _ => default

def textAt (library : YamlLibrary) (node : YamlNode) (key : String) (default : String) :
    Except String String := do
  return (← node.child library key).asText library default

def valueAt {Value : Type} (library : YamlLibrary) (convert : String → Option Value)
    (node : YamlNode) (key : String) (default : Value) : Except String Value := do
  return (← node.child library key).asValue convert default

def yamlUInt64 (library : YamlLibrary) (node : YamlNode) (key : String) : Except String Nat := do
  match ← node.child library key with
  | .absent _ => return 0
  | .scalar text =>
    match library.toUInt64 text with
    | some value => return value
    | none => throw library.badConversion
  | _ => throw library.badConversion

end YamlNode

end NdtSlam
