import ChatCommands.Proofs.Authorization
import ChatCommands.Proofs.Declaration
import ChatCommands.Proofs.Walk
import Mathlib.Data.List.Nodup

/-!
# ChatCommands.Proofs.Typing

The kinds of the arguments that a task gets.  The typed accessors of a bag are
one function of what is found under a name (`Bag.typed?_eq`), and every bound
argument is what some parameter reads from a token that it takes
(`Walk.exists_of_mem`).  So for parameters with distinct names, as declared
commands have them,

1. what is found under a name is an argument of that name, and its kind is the
   one that the parameter declares;
2. truth values are never bound, and integers have 64 bits;
3. the texts, in the order of the parameters, are some of the tokens, in order.

`Bag.Conforms` says this of a bag, and `submitted_conforms` says it of every task
that is handed on, through whatever macros.
-/

namespace ChatCommands

/-! ## typed access -/

/-- The value that an accessor gives: none for a user or a channel that the directory does not
know. -/
def Value.known? : Value → Option Value
  | user none => none
  | channel none => none
  | v => some v

/-- The text, if the value is one. -/
def Value.text? : Value → Option String
  | string s => some s
  | _ => none

/-- What is found under a name is given by the accessor of its kind, and by no other. -/
theorem Bag.typed?_eq (bag : Bag) (kind : Kind) (name : String) :
    bag.typed? kind name = (bag.get? name).bind fun a =>
      if kind = a.value.kind then a.value.known? else none := by
  rcases hget : bag.get? name with _ | ⟨_, i | x | b | s | (_ | u) | (_ | c)⟩ <;> cases kind <;>
    simp [typed?, long?, double?, bool?, string?, user?, channel?, hget, Value.kind, Value.known?]

theorem Bag.string?_eq (bag : Bag) (name : String) :
    bag.string? name = (bag.get? name).bind fun a => a.value.text? := by
  unfold string?
  cases bag.get? name with
  | none => rfl
  | some a => cases a with | mk _ value => cases value <;> rfl

theorem Bag.long?_eq_some_iff {bag : Bag} {name : String} {i : Int} :
    bag.long? name = some i ↔ ∃ a, bag.get? name = some a ∧ a.value = .long i := by
  unfold long?
  cases bag.get? name with
  | none => simp
  | some a => cases a with | mk _ value => cases value <;> simp

/-- The arguments of a bag are arguments of some parameters, of the kinds that these declare, and
their texts are tokens. -/
structure Bag.Conforms (bag : Bag) (parameters : List Parameter) (tokens : List String) :
    Prop where
  /-- What is found under a name is an argument of a parameter of that name. -/
  declared : ∀ name a, bag.get? name = some a →
    a.name = name ∧ ∃ p ∈ parameters, p.name = name
  /-- It is of the kind that the parameter declares, and only the accessor of that kind gives it. -/
  typed : ∀ p ∈ parameters, ∀ a, bag.get? p.name = some a →
    a.value.kind = p.kind ∧ bag.typed? p.kind p.name = a.value.known? ∧
      ∀ kind, kind ≠ p.kind → bag.typed? kind p.name = none
  /-- No accessor gives anything for a name under which nothing is found. -/
  absent : ∀ name, bag.contains name = false → ∀ kind, bag.typed? kind name = none
  /-- No truth value is bound. -/
  bool_unbound : ∀ p ∈ parameters, p.kind = .bool → bag.contains p.name = false
  /-- Integers have 64 bits. -/
  long_range : ∀ name i, bag.long? name = some i →
    -9223372036854775808 ≤ i ∧ i ≤ 9223372036854775807
  /-- The texts, in the order of the parameters, are some of the tokens, in order. -/
  texts_sublist : (parameters.filterMap fun p => bag.string? p.name).Sublist tokens

/-! ## what is read from a token -/

variable {directory : Directory} {server : Server} {ts ts' : List String}
  {ps ps' : List Parameter} {places : List Nat} {t : String} {p : Parameter} {bag : Bag}

theorem Kind.kind_reading (kind : Kind) (token : String) :
    (kind.reading directory server token).kind = kind := by
  cases kind <;> rfl

theorem Kind.text?_reading (kind : Kind) (token : String) :
    (kind.reading directory server token).text? = if kind = .string then some token else none := by
  cases kind <;> rfl

/-- Only an integer of 64 bits is read as an integer. -/
theorem range_of_reading {i : Int} (hbad : ¬BadInteger t) (haccepts : p.Accepts t)
    (h : p.kind.reading directory server t = .long i) :
    -9223372036854775808 ≤ i ∧ i ≤ 9223372036854775807 := by
  have hkind : p.kind = .long :=
    calc p.kind = (p.kind.reading directory server t).kind := (p.kind.kind_reading t).symm
      _ = .long := by rw [h, Value.kind]
  rw [hkind] at h
  obtain rfl : integerOf t.toList = i := by simpa [Kind.reading] using h
  have hform : Form.of t.toList = .integer := by
    rw [Parameter.Accepts, hkind] at haccepts
    cases hform : Form.of t.toList with
    | integer => rfl
    | _ => simp [hform, Form.kinds] at haccepts
  exact Classical.byContradiction fun hrange => hbad (.inr ⟨hform, hrange⟩)

namespace Walk

/-- What a walk binds is what its parameters read from tokens that they take. -/
theorem exists_of_mem (h : Walk ts ps places ts' ps') {a : Argument}
    (ha : a ∈ boundArguments directory server ts ps places) :
    ∃ p ∈ ps, ∃ t, ¬BadInteger t ∧ p.Accepts t ∧
      a = ⟨p.name, p.kind.reading directory server t⟩ := by
  induction h with
  | stay => contradiction
  | @bind t p ts ts' ps ps' places hbad haccepts hw ih =>
      rw [boundArguments_bind] at ha
      rcases List.mem_cons.mp ha with rfl | ha
      · exact ⟨p, List.mem_cons_self, t, hbad, haccepts, rfl⟩
      · obtain ⟨q, hq, hread⟩ := ih ha
        exact ⟨q, List.mem_cons_of_mem p hq, hread⟩
  | @pass t p ts ts' ps ps' places hbad hrefuses hoptional hw ih =>
      rw [boundArguments_pass] at ha
      obtain ⟨q, hq, hread⟩ := ih ha
      exact ⟨q, List.mem_cons_of_mem p hq, hread⟩

/-- The texts that a walk binds are some of its tokens, in order. -/
theorem texts_sublist (h : Walk ts ps places ts' ps') (directory : Directory) (server : Server) :
    ((boundArguments directory server ts ps places).filterMap fun a =>
      a.value.text?).Sublist ts := by
  induction h with
  | stay => exact List.nil_sublist _
  | @bind t p ts ts' ps ps' places hbad haccepts hw ih =>
      rw [boundArguments_bind, List.filterMap_cons, Kind.text?_reading]
      by_cases hkind : p.kind = .string
      · rw [if_pos hkind]
        exact ih.cons_cons t
      · rw [if_neg hkind]
        exact ih.cons t
  | pass hbad hrefuses hoptional hw ih =>
      rw [boundArguments_pass]
      exact ih

end Walk

/-! ## bags of a match -/

/-- What is found in the bag of a match was read by the parameter of that name. -/
theorem exists_reading_of_get? (hnames : (ps.map Parameter.name).Nodup)
    (hok : (matchTokens directory server ts ps).result = .ok bag) {name : String} {a : Argument}
    (ha : bag.get? name = some a) :
    ∃ p ∈ ps, p.name = name ∧ ∃ t, ¬BadInteger t ∧ p.Accepts t ∧
      a = ⟨name, p.kind.reading directory server t⟩ := by
  obtain ⟨places, ts', ps', hw, -, -, hentries⟩ :=
    (matchTokens_eq_ok_iff directory server hnames).mp hok
  have hmem : (name, a) ∈ bag.entries := Pairs.mem_of_get? ha
  rw [hentries] at hmem
  obtain ⟨a', ha', heq⟩ := List.mem_map.mp hmem
  obtain ⟨rfl, rfl⟩ := Prod.mk.inj heq
  obtain ⟨p, hp, t, hbad, haccepts, rfl⟩ := hw.exists_of_mem ha'
  exact ⟨p, hp, rfl, t, hbad, haccepts, rfl⟩

/-- The texts of a bag in the order of the parameters are those of its entries in order. -/
theorem filterMap_string?_eq (hnames : (ps.map Parameter.name).Nodup)
    (hw : Walk ts ps places ts' ps')
    (hentries : bag.entries =
      (boundArguments directory server ts ps places).map fun a => (a.name, a)) :
    ps.filterMap (fun p => bag.string? p.name) =
      (boundArguments directory server ts ps places).filterMap fun a => a.value.text? := by
  have hkeys : (Pairs.keys bag.entries).Sublist (ps.map Parameter.name) := by
    obtain ⟨front, rfl, -, hsub⟩ := hw.exists_front directory server
    rw [hentries, Pairs.keys, List.map_map, List.map_append]
    exact hsub.trans (List.sublist_append_left _ _)
  have hvalues := Pairs.filterMap_get? hkeys hnames
  calc ps.filterMap (fun p => bag.string? p.name)
      = ((ps.map Parameter.name).filterMap bag.get?).filterMap fun a => a.value.text? := by
        rw [List.filterMap_filterMap, List.filterMap_map]
        exact List.filterMap_congr fun p _ => bag.string?_eq p.name
    _ = (bag.entries.map Prod.snd).filterMap fun a => a.value.text? := by rw [← hvalues]; rfl
    _ = (boundArguments directory server ts ps places).filterMap fun a => a.value.text? := by
        rw [hentries, List.map_map]
        simp

/-- The bag of a match conforms to the parameters and the tokens. -/
theorem conforms_of_ok (hnames : (ps.map Parameter.name).Nodup)
    (hok : (matchTokens directory server ts ps).result = .ok bag) : bag.Conforms ps ts where
  declared name a ha := by
    obtain ⟨p, hp, hname, t, -, -, rfl⟩ := exists_reading_of_get? hnames hok ha
    exact ⟨rfl, p, hp, hname⟩
  typed p hp a ha := by
    obtain ⟨q, hq, hname, t, -, -, rfl⟩ := exists_reading_of_get? hnames hok ha
    obtain rfl : q = p := List.inj_on_of_nodup_map hnames hq hp hname
    simp only [Bag.typed?_eq, ha, Option.bind_some, Kind.kind_reading]
    exact ⟨trivial, if_pos trivial, fun kind hkind => if_neg hkind⟩
  absent name hname kind := by
    have hnone : bag.get? name = none := by
      rwa [OrderedMap.contains, Option.isSome_eq_false_iff, Option.isNone_iff_eq_none] at hname
    rw [Bag.typed?_eq, hnone, Option.bind_none]
  bool_unbound p hp hkind := by
    rw [OrderedMap.contains, Option.isSome_eq_false_iff, Option.isNone_iff_eq_none,
      Option.eq_none_iff_forall_ne_some]
    intro a ha
    obtain ⟨q, hq, hname, t, -, haccepts, -⟩ := exists_reading_of_get? hnames hok ha
    obtain rfl : q = p := List.inj_on_of_nodup_map hnames hq hp hname
    exact haccepts.kind_ne_bool hkind
  long_range name i hi := by
    obtain ⟨a, ha, hvalue⟩ := Bag.long?_eq_some_iff.mp hi
    obtain ⟨p, -, -, t, hbad, haccepts, rfl⟩ := exists_reading_of_get? hnames hok ha
    exact range_of_reading hbad haccepts hvalue
  texts_sublist := by
    obtain ⟨places, ts', ps', hw, -, -, hentries⟩ :=
      (matchTokens_eq_ok_iff directory server hnames).mp hok
    rw [filterMap_string?_eq hnames hw hentries]
    exact hw.texts_sublist directory server

/-- A raw match has at most one argument, which is a text. -/
theorem matchRaw_cases (name text marker : String) :
    (matchRaw name text marker).entries = [] ∨
      ∃ argument, (matchRaw name text marker).entries = [("raw", ⟨"raw", .string argument⟩)] := by
  unfold matchRaw
  dsimp only
  split
  · exact .inl rfl
  · exact .inr ⟨_, rfl⟩

/-! ## tasks that are handed on -/

namespace Scene

variable {τ : Type}

/-- **Typed arguments**: let a task of a declared command be handed on while a text is dispatched,
through whatever macros.  Unless the command is raw, its arguments conform to its parameters and to
the arguments of the text that was taken up last.  If it is raw, it has no argument or a single
one, which is a text under the name `raw`, whatever parameters are declared. -/
theorem submitted_conforms (s : Scene τ) (text : String) (before after : List (Event τ))
    (job : Job τ) (h : (s.dispatch text).events = before ++ .submitted job :: after)
    (hdeclared : job.schema.Declared) :
    ∃ (depth : Nat) (text' : String), (stepsOf before).getLast? = some (depth, text') ∧
      (job.schema.raw = false →
        job.arguments.Conforms job.schema.parameters (Token.arguments text')) ∧
      (job.schema.raw = true → job.arguments.entries = [] ∨
        ∃ argument, job.arguments.entries = [("raw", ⟨"raw", .string argument⟩)]) := by
  obtain ⟨depth, text', hlast, hreaction⟩ := s.attributed_dispatchFrom _ _ _ before job after h
  obtain ⟨name, schema, -, -, hanswer⟩ := reaction_eq_invoked_iff.mp hreaction
  obtain ⟨-, bag, hmatch, rfl⟩ := answer_eq_invoked_iff.mp hanswer
  refine ⟨depth, text', hlast, fun hraw => ?_, fun hraw => ?_⟩
  · dsimp only at hraw hdeclared
    rw [matchText, if_neg (by simp [hraw])] at hmatch
    exact conforms_of_ok hdeclared.nodup_names hmatch
  · dsimp only at hraw
    rw [matchText, if_pos hraw] at hmatch
    obtain rfl := Except.ok.inj hmatch
    exact matchRaw_cases _ _ _

/-- A command with a count, a truth value that may be left out, and a text. -/
def countedText : Schema Unit :=
  { name := "p", task := ()
    parameters := [⟨.long, "n", false⟩, ⟨.bool, "b", true⟩, ⟨.string, "text", false⟩] }

/-- A scene in which `!m` is a macro for that command. -/
def countedScene : Scene Unit where
  settings := {}
  registry := .after [.activate, .register countedText]
  host := World.fullHost { macros := some [("s", [("m", some "!p 7 \"a b\"")])] }
  user := { id := "u" }
  channel := { id := "c" }
  server := { id := "s" }

/-- The arguments that the macro gives are a count and a text. -/
theorem conforming_through_macro :
    countedText.Declared ∧
    ∃ before job after,
      (countedScene.dispatch "!m").events = before ++ .submitted job :: after ∧
      job.schema = countedText ∧ job.arguments.Conforms countedText.parameters ["7", "a b"] ∧
      job.arguments.long? "n" = some 7 ∧ job.arguments.string? "text" = some "a b" := by
  have hdeclared : countedText.Declared :=
    ⟨.text "p", [.arg (.text "long") (.text "n") none,
      .arg (.text "bool") (.text "b") (some (.bool true)),
      .arg (.text "string") (.text "text") none, .runs ()], rfl⟩
  have hevents : (countedScene.dispatch "!m").events =
      [.step 0 "!m", .asked (.automated { id := "u" }), .asked (.macroBody { id := "s" } "m"),
        .noted (.expanded "m" 1), .step 1 "!p 7 \"a b\"", .asked (.automated { id := "u" })] ++
      .submitted ⟨countedText, Bag.ofArguments [⟨"n", .long 7⟩, ⟨"text", .string "a b"⟩],
        { id := "u" }, { id := "c" }, { id := "s" }⟩ :: [.noted (.submitted ⟨"p", "u", 1⟩ 2)] := rfl
  obtain ⟨depth, text', hlast, hconforms, -⟩ :=
    submitted_conforms countedScene "!m" _ _ _ hevents hdeclared
  obtain ⟨rfl, rfl⟩ : depth = 1 ∧ text' = "!p 7 \"a b\"" := by simpa [stepsOf, eq_comm] using hlast
  exact ⟨hdeclared, _, _, _, hevents, rfl, hconforms rfl, rfl, rfl⟩

end Scene

end ChatCommands
