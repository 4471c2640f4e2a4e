import ChatCommands.Failure
import ChatCommands.Proofs.OrderedMap

/-!
# ChatCommands.Proofs.Report

What the record of an error tells about it.

An error that is raised with named values has those that its sort declares and
attributes for all others, and its record starts with three entries of its own:
the message, the type and the details.  Attributes are entered after them under
their own names.  Of the three names only `type` can be one of an attribute, which
then takes the place of the type (`Failure.get?_toRecord`).
-/

namespace ChatCommands

namespace Failure

variable {sort : FailureSort} {named : Members} {key : String} {d : Datum}

/-! ## raising -/

/-- The message of an error that is raised with named values: the one among them, or else the
default of its sort. -/
def messageOf? (sort : FailureSort) (named : Members) : Option Datum :=
  (Pairs.get? named "message").or (sort.defaultMessage?.map .text)

/-- The value of the own attribute of an error that is raised with named values. -/
def ownOf (sort : FailureSort) (named : Members) : Datum :=
  (sort.ownAttribute?.bind (Pairs.get? named)).getD .null

/-- The details that an error is raised with. -/
def givenDetails (named : Members) : Members :=
  detailsOf ((Pairs.get? named "details").getD .null)

/-- Whether a value may be attached under a name: it is neither the error itself nor one of its
methods, nor kept back from its record. -/
def isAttachable (key : String) : Bool :=
  key != selfKey && key != recordKey && key != shownKey && !key.startsWith "_"

/-- Named values that an error of a sort can be raised with, and that its record has to tell. -/
structure Raises (sort : FailureSort) (named : Members) : Prop where
  /-- No name occurs twice. -/
  nodup : (Pairs.keys named).Nodup
  /-- There is a message. -/
  message : (messageOf? sort named).isSome = true
  /-- The details are a record, if there are any. -/
  details : ∀ d, Pairs.get? named "details" = some d → d = .null ∨ ∃ members, d = .record members
  /-- Values that the sort does not declare can be attached. -/
  attachable : ∀ key ∈ Pairs.keys named, isDeclared sort key = false → isAttachable key = true

/-- The attributes of an error that is raised with named values. -/
def attributesOf (sort : FailureSort) (named : Members) : Members :=
  (named.filter fun p => !isDeclared sort p.1) ++ ownAttributes sort (ownOf sort named)

theorem Raises.get?_eq_none (h : Raises sort named) (hdeclared : isDeclared sort key = false)
    (hkey : isAttachable key = false) : Pairs.get? named key = none := by
  rw [Pairs.get?_eq_none_iff]
  intro hmem
  have hattachable := h.attachable key hmem hdeclared
  simp [hkey] at hattachable

/-- **Raising**: the error has the message, the details with its own value noted in them, and the
values that are not declared as attributes, its own one behind them. -/
theorem Raises.exists_failure (h : Raises sort named) :
    ∃ failure, ofNamed? sort named = some failure ∧ failure.sort = sort ∧
      messageOf? sort named = some failure.message ∧
      failure.details = notedDetails sort (ownOf sort named) (givenDetails named) ∧
      failure.attributes = attributesOf sort named := by
  obtain ⟨message, hmessage⟩ := Option.isSome_iff_exists.mp h.message
  have hself : Pairs.get? named selfKey = none :=
    h.get?_eq_none (by cases sort <;> decide) (by decide +kernel)
  have hclear : (!decide (Pairs.keys named).Nodup || Pairs.contains named selfKey) = false := by
    simp [h.nodup, Pairs.contains, hself]
  have hshown : Pairs.get? (named.filter fun p => !isDeclared sort p.1) shownKey = none := by
    have hargs : isDeclared sort shownKey = false := by cases sort <;> decide
    rw [Pairs.get?_filter fun key => !isDeclared sort key,
      h.get?_eq_none hargs (by decide +kernel), ite_self]
  refine ⟨{ sort := sort, message := message, shown := [message]
            details := notedDetails sort (ownOf sort named) (givenDetails named)
            attributes := attributesOf sort named }, ?_, rfl, hmessage, rfl, rfl⟩
  cases hget : Pairs.get? named "message" with
  | some m =>
    obtain rfl : m = message := by simpa [messageOf?, hget] using hmessage
    simp only [ofNamed?, hclear, hget, hshown]
    rfl
  | none =>
    have hdefault : sort.defaultMessage?.map .text = some message := by
      simpa [messageOf?, hget] using hmessage
    simp only [ofNamed?, hclear, hget, hdefault, hshown]
    rfl

/-! ## reporting -/

/-- The own attribute of a sort is declared, and is told. -/
theorem listed_of_own (h : sort.ownAttribute? = some key) :
    isDeclared sort key = true ∧ isListed key = true ∧ key ≠ recordKey := by
  cases sort <;> simp [FailureSort.ownAttribute?] at h <;> subst h <;> decide +kernel

theorem listed_of_attachable (hdeclared : isDeclared sort key = false)
    (h : isAttachable key = true) : isListed key = true ∧ key ≠ recordKey := by
  simp_all [isDeclared, isAttachable, isListed]

theorem get?_ownAttributes (sort : FailureSort) (own : Datum) (key : String) :
    Pairs.get? (ownAttributes sort own) key =
      if sort.ownAttribute? = some key then some own else none := by
  unfold ownAttributes
  split
  · next k hk => simp [hk, Pairs.get?]
  · next hnone => simp [hnone, Pairs.get?]

/-- Attributes are the values that are not declared, and the own one. -/
theorem get?_attributesOf (sort : FailureSort) (named : Members) (key : String) :
    Pairs.get? (attributesOf sort named) key =
      if isDeclared sort key then
        if sort.ownAttribute? = some key then some (ownOf sort named) else none
      else Pairs.get? named key := by
  rw [attributesOf, Pairs.get?_append, Pairs.get?_filter fun key => !isDeclared sort key,
    get?_ownAttributes]
  by_cases hdeclared : isDeclared sort key = true
  · simp [hdeclared]
  · have hown : sort.ownAttribute? ≠ some key := fun hown => hdeclared (listed_of_own hown).1
    simp [hdeclared, hown]

/-- A value of its own is noted in the details under a key that they have not taken. -/
theorem get?_notedDetails (sort : FailureSort) (own : Datum) (details : Members) (key : String) :
    Pairs.get? (notedDetails sort own details) key = (Pairs.get? details key).or
      (if sort.ownAttribute? = some key ∧ sort.isNoted own = true then some own else none) := by
  unfold notedDetails
  split
  · next k hk =>
    by_cases hnoted : sort.isNoted own = true
    · by_cases hkey : k = key
      · subst hkey
        cases hget : Pairs.get? details k with
        | none =>
          simp [hk, hnoted, hget, Pairs.setNew, Pairs.contains, Pairs.get?_append, Pairs.get?]
        | some d => simp [hnoted, hget, Pairs.setNew, Pairs.contains]
      · by_cases hcontains : Pairs.contains details k = true
        · simp [hk, hnoted, hkey, Pairs.setNew, hcontains]
        · simp [hk, hnoted, hkey, Pairs.setNew, hcontains, Pairs.get?_append, Pairs.get?]
    · simp [hnoted]
  · next hnone => simp [hnone]

theorem Raises.nodup_keys_attributesOf (h : Raises sort named) :
    (Pairs.keys (attributesOf sort named)).Nodup := by
  have hothers := Pairs.nodup_keys_filter h.nodup fun p => !isDeclared sort p.1
  cases hown : sort.ownAttribute? with
  | none => simpa [attributesOf, ownAttributes, hown] using hothers
  | some k =>
    have hk : k ∉ Pairs.keys (named.filter fun p => !isDeclared sort p.1) := by
      rw [← Pairs.get?_eq_none_iff, Pairs.get?_filter fun key => !isDeclared sort key]
      simp [(listed_of_own hown).1]
    have hset := Pairs.nodup_keys_set hothers k (ownOf sort named)
    rw [Pairs.set_of_not_mem hk] at hset
    simpa [attributesOf, ownAttributes, hown] using hset

theorem Raises.listed_of_mem (h : Raises sort named)
    (hkey : key ∈ Pairs.keys (attributesOf sort named)) :
    isListed key = true ∧ key ≠ recordKey := by
  rw [← Pairs.isSome_get?_iff, get?_attributesOf] at hkey
  by_cases hdeclared : isDeclared sort key = true
  · have hown : sort.ownAttribute? = some key := by simpa [hdeclared] using hkey
    exact (listed_of_own hown).2
  · have hmem : key ∈ Pairs.keys named := by
      rw [← Pairs.isSome_get?_iff]
      simpa [hdeclared] using hkey
    have hundeclared : isDeclared sort key = false := by simpa using hdeclared
    exact listed_of_attachable hundeclared (h.attachable key hmem hundeclared)

theorem Raises.toRecord?_eq (h : Raises sort named) {failure : Failure}
    (hattributes : failure.attributes = attributesOf sort named) :
    failure.toRecord? = some failure.toRecord := by
  have hhidden : Pairs.get? (attributesOf sort named) recordKey = none :=
    Pairs.get?_eq_none_iff.mpr fun hmem => (h.listed_of_mem hmem).2 rfl
  simp [toRecord?, hattributes, Pairs.contains, hhidden]

/-- Every attribute is told, over what a record starts with. -/
theorem Raises.get?_toRecord (h : Raises sort named) {failure : Failure}
    (hattributes : failure.attributes = attributesOf sort named) (key : String) :
    Pairs.get? failure.toRecord key = (Pairs.get? (attributesOf sort named) key).or
      (Pairs.get? [("message", failure.message), ("type", .text failure.sort.name),
        ("details", .record failure.details)] key) := by
  have hlisted : (attributesOf sort named).filter (fun p => isListed p.1) =
      attributesOf sort named :=
    List.filter_eq_self.mpr fun p hp => (h.listed_of_mem (List.mem_map_of_mem hp)).1
  rw [toRecord, hattributes, hlisted, Pairs.get?_setAll h.nodup_keys_attributesOf]

/-- **Records of errors**: whatever is attached to an error, its record has its message and its
details, into which its own value is put under a key that they have not taken, and every attribute
under its own name.  The type is the name of the sort, unless a value is attached as `type`. -/
theorem record_of_raised (h : Raises sort named) :
    ∃ failure record, ofNamed? sort named = some failure ∧ failure.toRecord? = some record ∧
      Pairs.get? record "message" = messageOf? sort named ∧
      Pairs.get? record "details" = some (.record failure.details) ∧
      (∀ key, Pairs.get? failure.details key = (Pairs.get? (givenDetails named) key).or
        ((Pairs.get? named key).filter fun own =>
          sort.ownAttribute? = some key ∧ sort.isNoted own = true)) ∧
      (∀ key d, Pairs.get? named key = some d → isDeclared sort key = false →
        Pairs.get? record key = some d) ∧
      (∀ key, sort.ownAttribute? = some key →
        Pairs.get? record key = some ((Pairs.get? named key).getD .null)) ∧
      Pairs.get? record "type" = some ((Pairs.get? named "type").getD (.text sort.name)) := by
  obtain ⟨failure, hraised, rfl, hmessage, hdetails, hattributes⟩ := h.exists_failure
  have hrecord := h.toRecord?_eq hattributes
  have hget := h.get?_toRecord hattributes
  have hown : ∀ key, failure.sort.ownAttribute? = some key →
      ownOf failure.sort named = (Pairs.get? named key).getD .null := by
    intro key hkey
    rw [ownOf, hkey, Option.bind_some]
  refine ⟨failure, failure.toRecord, hraised, hrecord, ?_, ?_, ?_, ?_, ?_, ?_⟩
  · have hdeclared : isDeclared failure.sort "message" = true := rfl
    have hother : failure.sort.ownAttribute? ≠ some "message" := by
      cases failure.sort <;> decide
    rw [hget, get?_attributesOf, if_pos hdeclared, if_neg hother, hmessage]
    rfl
  · have hdeclared : isDeclared failure.sort "details" = true := rfl
    have hother : failure.sort.ownAttribute? ≠ some "details" := by
      cases failure.sort <;> decide
    rw [hget, get?_attributesOf, if_pos hdeclared, if_neg hother]
    rfl
  · intro key
    rw [hdetails, get?_notedDetails]
    by_cases hkey : failure.sort.ownAttribute? = some key
    · rw [hown key hkey]
      cases hnamed : Pairs.get? named key with
      | none =>
        have hnull : failure.sort.isNoted .null = false := by cases failure.sort <;> rfl
        simp [hnull]
      | some own => simp [hkey, Option.filter_some]
    · simp [hkey]
  · intro key d hnamed hdeclared
    rw [hget, get?_attributesOf, hnamed, hdeclared]
    rfl
  · intro key hkey
    rw [hget, get?_attributesOf, if_pos (listed_of_own hkey).1, if_pos hkey, hown key hkey]
    rfl
  · have hdeclared : isDeclared failure.sort "type" = false := by
      cases failure.sort <;> decide
    rw [hget, get?_attributesOf, hdeclared]
    cases Pairs.get? named "type" <;> rfl

/-- Values with a type among them, and with a key of the details that the own value would take. -/
def typedValues : Members :=
  [("message", .text "bad"), ("type", .text "Fake"), ("code", .integer 7),
    ("parameter_name", .text "n"),
    ("details", .record [("given", .integer 1), ("parameter_name", .text "mine")])]

/-- An attached type hides the sort; the details keep the caller's entry. -/
theorem record_of_typedValues :
    Raises .parsing typedValues ∧
    ∃ failure record, ofNamed? .parsing typedValues = some failure ∧
      failure.toRecord? = some record ∧
      Pairs.get? record "message" = some (.text "bad") ∧
      Pairs.get? record "type" = some (.text "Fake") ∧
      Pairs.get? record "code" = some (.integer 7) ∧
      Pairs.get? record "parameter_name" = some (.text "n") ∧
      Pairs.get? record "details" = some (.record failure.details) ∧
      Pairs.get? failure.details "parameter_name" = some (.text "mine") := by
  have hraises : Raises .parsing typedValues := {
    nodup := by decide
    message := rfl
    details := by
      intro d hd
      obtain rfl := Option.some.inj hd
      exact .inr ⟨_, rfl⟩
    attachable := by decide +kernel }
  obtain ⟨failure, record, hfailure, hrecord, hmessage, hdetails, hnoted, hattached, hown, htype⟩ :=
    record_of_raised hraises
  exact ⟨hraises, failure, record, hfailure, hrecord, hmessage, htype,
    hattached "code" _ rfl (by decide), hown "parameter_name" rfl, hdetails,
    hnoted "parameter_name"⟩

end Failure

end ChatCommands
