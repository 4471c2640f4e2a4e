import ChatCommands.Validation

/-!
# ChatCommands.Proofs.Checks

Checks taken apart.  A check has a value or faults; what is put together by
`Checked.app` has a value if both parts have one, and the faults of both.
-/

namespace ChatCommands

/-- A result that has a value is that value. -/
theorem eq_ok_of_toOption {ε α : Type} {x : Except ε α} {a : α} (h : x.toOption = some a) :
    x = .ok a := by
  cases x with
  | ok b => exact congrArg _ (Option.some.inj h)
  | error e => cases h

namespace Checked

variable {α β : Type} {f : Checked (α → β)} {x y : Checked α} {a : α} {b : β} {step : PathStep}

/-- A check that is put together has a value if both parts have one. -/
theorem app_eq_ok_iff : app f x = .ok b ↔ ∃ g a, f = .ok g ∧ x = .ok a ∧ g a = b := by
  cases f <;> cases x <;> simp [app]

/-- Where a value stands does not matter if it has no faults. -/
theorem under_eq_ok_iff : under step x = .ok a ↔ x = .ok a := by
  cases x <;> simp [under]

/-- The faults that a check has found. -/
def faults : Checked α → List FieldError
  | .ok _ => []
  | .error es => es

@[simp] theorem isOk_ok (a : α) : Except.isOk (.ok a : Checked α) = true := rfl

@[simp] theorem faults_ok (a : α) : faults (.ok a) = [] := rfl

/-- The faults of both parts are found, those of the first part first. -/
theorem faults_app (f : Checked (α → β)) (x : Checked α) :
    (app f x).faults = f.faults ++ x.faults := by
  cases f <;> cases x <;> simp [app, faults]

/-- The faults of a part are found further down. -/
theorem faults_under (step : PathStep) (x : Checked α) :
    (under step x).faults = x.faults.map (.under step) := by
  cases x <;> rfl

/-- A check with a fault has no value. -/
theorem eq_error_of_mem_faults {e : FieldError} (h : e ∈ x.faults) : x = .error x.faults := by
  cases x with
  | ok a => contradiction
  | error es => rfl

/-- A check passes if both of its parts pass. -/
theorem isOk_app (f : Checked (α → β)) (x : Checked α) :
    (app f x).isOk = (f.isOk && x.isOk) := by
  cases f <;> cases x <;> rfl

/-- Two checks that do not pass are equal if they find the same faults. -/
theorem eq_of_isOk_eq_false (h : x.isOk = false) (hy : y.isOk = x.isOk)
    (hfaults : y.faults = x.faults) : y = x := by
  cases x with
  | ok a => contradiction
  | error es =>
    cases y with
    | ok b => contradiction
    | error more => exact congrArg _ hfaults

end Checked

/-! ## fields -/

/-- The faults of a field are found under its name. -/
theorem Datum.head?_of_mem_faults {α : Type} {members : Members} {key : String} {default : α}
    {read : Datum → Checked α} {e : FieldError}
    (h : e ∈ (readFieldOr members key default read).faults) :
    e.path.head? = some (.field key) := by
  rw [readFieldOr] at h
  split at h
  · rw [Checked.faults_under] at h
    obtain ⟨inner, -, rfl⟩ := List.mem_map.mp h
    rfl
  · contradiction

/-- A field that is there is read from its value, and its faults are found under its name. -/
theorem Datum.readFieldOr_of_get? {α : Type} {members : Members} {key : String} {d : Datum}
    (h : Pairs.get? members key = some d) (default : α) (read : Datum → Checked α) :
    readFieldOr members key default read = Checked.under (.field key) (read d) := by
  rw [readFieldOr, h]

/-- A value that is read as the default can be left out. -/
theorem Datum.readFieldOr_of_neutral {α : Type} {members others : Members} {key : String}
    {default : α} {read : Datum → Checked α} {d : Datum}
    (hget : Pairs.get? others key = (Pairs.get? members key).or (some d))
    (hread : read d = .ok default) :
    readFieldOr others key default read = readFieldOr members key default read := by
  rw [readFieldOr, readFieldOr, hget]
  cases Pairs.get? members key with
  | none => exact congrArg (Checked.under _) hread
  | some value => rfl

/-- Nothing but the value under its name matters for a field. -/
theorem Datum.readFieldOr_congr {α : Type} {members others : Members} {key : String}
    (h : Pairs.get? members key = Pairs.get? others key) (default : α) (read : Datum → Checked α) :
    readFieldOr members key default read = readFieldOr others key default read := by
  rw [readFieldOr, h, readFieldOr]

end ChatCommands
