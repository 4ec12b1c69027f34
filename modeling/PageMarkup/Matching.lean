import PageMarkup.Fault

/-!
# Expectations on values

What a caller asks of a value of a parameter: nothing, a text that it must be, or a pattern that must be met
in it.
-/
namespace PageMarkup

/-- Whether the value is as expected. A value that is missing is none of the texts and meets no pattern. -/
def matchesExpected (value : Option Text) (expected : Value) : Except Fault Bool :=
  match expected with
  | .null => .ok true
  | .text s => .ok (value == some s)
  | .leaf (.pattern p) => .ok (value.any p.search)
  | v => .error (.found .comparison v)

/-- Whether any value is as expected. Patterns can be met in texts only. -/
def Value.meets (value expected : Value) : Except Fault Bool :=
  match value, expected with
  | .text s, expected => matchesExpected (some s) expected
  | .null, expected => matchesExpected none expected
  | v, .leaf (.pattern _) => .error (.notJoinable v.kind)
  | _, expected => matchesExpected none expected

end PageMarkup
