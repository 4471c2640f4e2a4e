import ChatCommands.Datum

/-!
# ChatCommands.Datum.Merge

Laying one record over another. A member of the upper record takes the place
of the lower record's member of that name, except that a record over a record
is merged into it, member by member, in turn.
-/

namespace ChatCommands.Datum

mutual

/-- A value laid over what was there before. -/
def layOver (below : Option Datum) : Datum → Datum
  | record upper =>
    match below with
    | some (record lower) => record (layAllOver lower upper)
    | _ => record upper
  | value => value

/-- The members of a record laid over those of another. -/
def layAllOver (lower : List (String × Datum)) : List (String × Datum) → List (String × Datum)
  | [] => lower
  | (name, value) :: upper =>
    layAllOver (Pairs.set lower name (layOver (Pairs.get? lower name) value)) upper

end

/-- One record laid over another. -/
def merge (lower upper : Members) : Members := layAllOver lower upper

end ChatCommands.Datum
