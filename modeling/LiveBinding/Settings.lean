import LiveBinding.Value.Write

/-!
# Settings of an engine
-/

namespace LiveBinding

/-- What an engine can be told in advance. -/
structure Settings where
  /-- The policy of writes that name none. -/
  defaultPolicy : WritePolicy := .create
  /-- How many queued writes one change may lead to. -/
  maxSettleWrites : Nat := 1024
  /-- Whether text that cannot be read is reported. -/
  logParseFailures : Bool := true
  deriving DecidableEq, Repr

instance : Inhabited Settings := ⟨{}⟩

end LiveBinding
