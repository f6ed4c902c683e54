import DeviceTwin.Text.Integer

/-!
# Frames of an acknowledgement

The objects that are open while an acknowledgement is written, and the calls that open and close
them.
-/
namespace DeviceTwin.Acknowledgement

/-- An open object of the payload. -/
inductive Frame where
  | root
  | component
  /-- The block of one acknowledged property, whose value is written at `depth`. -/
  | statusBlock (depth : Nat)
  deriving DecidableEq, Repr

def Frame.text : Frame → String
  | root => "Root"
  | component => "Component"
  | statusBlock depth => "StatusBlock \x7b depth: " ++ Integer.ofNat depth ++ " \x7d"

inductive Call where
  | beginComponent
  | endComponent
  | beginStatus
  | endStatus
  | property
  | finish
  deriving DecidableEq, Repr

def Call.text : Call → String
  | beginComponent => "begin_component"
  | endComponent => "end_component"
  | beginStatus => "begin_status"
  | endStatus => "end_status"
  | property => "property"
  | finish => "finish"

end DeviceTwin.Acknowledgement
