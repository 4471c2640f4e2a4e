import ChatCommands.Document.Construction
import ChatCommands.Proofs.OrderedMap

/-!
# ChatCommands.Proofs.DistinctNames

Records that name no member twice, and hold no record that does
(`Datum.Distinct`).  Of members with the same name the last one counts where
records are put together and the first one where they are read, so that the
two agree about these records only.

The values of all documents are such: a mapping enters every member in place of
the one that has its name, whatever its nodes were made into.  This is all that
is used of the way in which documents are read, and `Document.Reader` has nothing
else.
-/

namespace ChatCommands

/-- No record in a value, at any depth, names a member twice. -/
inductive Datum.Distinct : Datum → Prop where
  /-- A value that holds no others. -/
  | single {d : Datum} (hlist : ∀ items, d ≠ .list items)
      (hrecord : ∀ members, d ≠ .record members) : Distinct d
  /-- A list of such values. -/
  | list {items : List Datum} (h : ∀ d ∈ items, Distinct d) : Distinct (.list items)
  /-- A record of such values with distinct names. -/
  | record {members : Members} (hkeys : (Pairs.keys members).Nodup)
      (h : ∀ p ∈ members, Distinct p.2) : Distinct (.record members)

/-- Distinct names, and values with distinct names. -/
structure Members.Distinct (members : Members) : Prop where
  /-- No name repeats. -/
  keys : (Pairs.keys members).Nodup
  /-- Nor does one repeat within a value. -/
  values : ∀ p ∈ members, p.2.Distinct

namespace Members

theorem distinct_nil : Distinct [] := ⟨List.nodup_nil, by simp⟩

/-- Entering a value under a name, new or not, leaves the names distinct. -/
theorem Distinct.set {members : Members} {d : Datum} (h : Distinct members) (name : String)
    (hd : d.Distinct) : Distinct (Pairs.set members name d) where
  keys := Pairs.nodup_keys_set h.keys name d
  values p hp := by
    rcases Pairs.mem_set hp with rfl | hp
    · exact hd
    · exact h.values p hp

end Members

namespace Datum

/-- A record has distinct names within exactly if its members have. -/
theorem distinct_record_iff {members : Members} :
    Distinct (.record members) ↔ members.Distinct := by
  constructor
  · rintro (⟨-, hrecord⟩ | _ | ⟨hkeys, hvalues⟩)
    · exact absurd rfl (hrecord members)
    · exact ⟨hkeys, hvalues⟩
  · exact fun h => .record h.keys h.values

end Datum

/-! ## nodes -/

namespace Document

/-- A scalar is neither a list nor a record. -/
theorem ScalarKind.distinct_value {kind : ScalarKind} {s : String} {d : Datum}
    (h : kind.value s = .ok d) : d.Distinct := by
  have hmap {α : Type} {x : Except Fault α} {make : α → Datum} (h : x.map make = .ok d) :
      ∃ a, make a = d := by
    cases x with
    | error f => contradiction
    | ok a => exact ⟨a, Except.ok.inj h⟩
  cases kind with
  | null | text =>
    obtain rfl := Except.ok.inj h
    exact .single nofun nofun
  | integer | real =>
    obtain ⟨a, rfl⟩ := hmap h
    exact .single nofun nofun
  | bool =>
    rw [value] at h
    split at h
    · obtain rfl := Except.ok.inj h
      exact .single nofun nofun
    · contradiction
  | moment =>
    rw [value, momentOf] at h
    split at h
    · split at h
      · obtain rfl := Except.ok.inj h
        exact .single nofun nofun
      · contradiction
    · contradiction
  | binary =>
    rw [value, binaryOf] at h
    split at h
    · split at h
      · obtain rfl := Except.ok.inj h
        exact .single nofun nofun
      · contradiction
    · contradiction
  | merge | standIn => contradiction

/-- Both parts of an entry have distinct names. -/
structure Entry.Distinct (e : Entry) : Prop where
  /-- The key has. -/
  key : e.key.Distinct
  /-- The value has. -/
  value : e.value.Distinct

/-- A node has distinct names, and so has what others take over from it. -/
structure Built.Distinct (b : Built) : Prop where
  /-- Its value has. -/
  value : b.value.Distinct
  /-- So have the entries that a mapping takes over. -/
  taken : ∀ es, b.taken? = some es → ∀ e ∈ es, e.Distinct
  /-- So has the pair that it is among others. -/
  pair : ∀ p, b.pair? = some p → p.1.Distinct

/-- What a node is made of has distinct names. -/
def Form.Distinct : Form → Prop
  | scalar _ _ => True
  | sequence items => ∀ b ∈ items, b.Distinct
  | mapping entries => ∀ e ∈ entries, e.1.Distinct ∧ e.2.Distinct

/-- Every member of a record comes from an entry. -/
theorem Entry.distinct_members {es : List Entry} (h : ∀ e ∈ es, e.Distinct) :
    Members.Distinct (members es) := by
  refine List.foldlRecOn _ _ Members.distinct_nil fun ms hms e he => ?_
  split
  · exact hms.set _ (h e he).value
  · exact hms

namespace Built

/-- A key has distinct names: it is the value of its node, the text of that, or nothing. -/
theorem distinct_asKey {b : Built} (h : b.Distinct) : b.asKey.1.Distinct := by
  unfold asKey
  split
  · split <;> exact .single nofun nofun
  · split
    · exact .single nofun nofun
    · exact .single nofun nofun
    · exact h.value

/-- An entry of a mapping is made of a key and a value. -/
theorem distinct_entry {key value : Built} (hkey : key.Distinct) (hvalue : value.Distinct) :
    (key.entry value).Distinct := ⟨distinct_asKey hkey, hvalue.value⟩

/-- The faults of a node do not matter. -/
theorem Distinct.quiet {b : Built} (h : b.Distinct) : b.quiet.Distinct where
  value := h.value
  taken es hes e he := by
    obtain ⟨others, hothers, rfl⟩ := Option.map_eq_some_iff.mp hes
    obtain ⟨other, hother, rfl⟩ := List.mem_map.mp he
    exact ⟨(h.taken _ hothers other hother).key, (h.taken _ hothers other hother).value⟩
  pair p hp := by
    obtain ⟨q, hq, rfl⟩ := Option.map_eq_some_iff.mp hp
    exact h.pair q hq

end Built

/-- What is collected from all elements of a list comes from one of them. -/
theorem exists_of_mem_mapM {α β : Type} {f : α → Option β} {xs : List α} {ys : List β}
    (h : xs.mapM f = some ys) {y : β} (hy : y ∈ ys) : ∃ x ∈ xs, f x = some y := by
  induction xs generalizing ys with
  | nil =>
    obtain rfl : [] = ys := by simpa using h
    contradiction
  | cons x xs ih =>
    rw [List.mapM_cons] at h
    obtain ⟨z, hz, h⟩ := Option.bind_eq_some_iff.mp h
    obtain ⟨zs, hzs, h⟩ := Option.bind_eq_some_iff.mp h
    obtain rfl : z :: zs = ys := Option.some.inj h
    rcases List.mem_cons.mp hy with rfl | hy
    · exact ⟨x, List.mem_cons_self, hz⟩
    · obtain ⟨x', hx', hfx'⟩ := ih hzs hy
      exact ⟨x', List.mem_cons_of_mem _ hx', hfx'⟩

namespace Form

/-- The entries of a mapping are its own or come from those that it takes over. -/
theorem distinct_entries? {entries : List (Built × Built)}
    (h : ∀ e ∈ entries, e.1.Distinct ∧ e.2.Distinct) {es : List Entry}
    (hes : entries? entries = some es) : ∀ e ∈ es, e.Distinct := by
  obtain ⟨taken, htaken, hes⟩ := Option.bind_eq_some_iff.mp hes
  obtain rfl := Option.some.inj hes
  intro e he
  rcases List.mem_append.mp he with he | he
  · obtain ⟨others, hothers, he⟩ := List.mem_flatten.mp he
    obtain ⟨source, hsource, hfrom⟩ := exists_of_mem_mapM htaken hothers
    exact (h source (List.mem_filter.mp hsource).1).2.taken others hfrom e he
  · obtain ⟨own, hown, rfl⟩ := List.mem_map.mp he
    obtain ⟨hkey, hvalue⟩ := h own (List.mem_filter.mp hown).1
    exact Built.distinct_entry hkey hvalue

variable {f : Form}

/-- What a mapping may take over from a node comes from the parts of that node. -/
theorem distinct_taken? (h : f.Distinct) {es : List Entry} (hes : f.taken? = some es) :
    ∀ e ∈ es, e.Distinct := by
  cases f with
  | scalar text isPlain => contradiction
  | sequence items =>
    rw [taken?] at hes
    split at hes
    · obtain ⟨lists, hlists, rfl⟩ := Option.map_eq_some_iff.mp hes
      intro e he
      obtain ⟨others, hothers, he⟩ := List.mem_flatten.mp he
      obtain ⟨item, hitem, hfrom⟩ := exists_of_mem_mapM hlists (List.mem_reverse.mp hothers)
      exact (h item hitem).taken others hfrom e he
    · contradiction
  | mapping entries => exact distinct_entries? h hes

/-- A pair is a mapping with a single entry, as a list of its two parts. -/
theorem distinct_pair? (h : f.Distinct) {p : Datum × Faults} (hp : f.pair? = some p) :
    p.1.Distinct := by
  unfold pair? at hp
  split at hp
  · next key value =>
    obtain rfl := Option.some.inj hp
    obtain ⟨hkey, hvalue⟩ := h (key, value) List.mem_cons_self
    refine .list fun d hd => ?_
    rcases List.mem_pair.mp hd with rfl | rfl
    · exact hkey.value
    · exact hvalue.value
  · contradiction

/-- Whatever is made of the entries of a mapping has distinct names if it has them for all entries
with distinct names. -/
theorem distinct_ofEntries {entries : List (Built × Built)} {make : List Entry → Datum}
    (h : ∀ e ∈ entries, e.1.Distinct ∧ e.2.Distinct)
    (hmake : ∀ es : List Entry, (∀ e ∈ es, e.Distinct) → (make es).Distinct) :
    (ofEntries entries make).1.Distinct := by
  unfold ofEntries
  split
  · next es hes => exact hmake es (distinct_entries? h hes)
  · exact hmake [] nofun

/-- Whatever a node is made into, it has distinct names if its parts have. -/
theorem distinct_make (h : f.Distinct) (kind : NodeKind) : (make kind f).1.Distinct := by
  unfold make
  split
  · split
    · next d hd =>
      obtain ⟨s, -, hs⟩ := Option.map_eq_some_iff.mp hd
      exact ScalarKind.distinct_value hs
    · exact .single nofun nofun
    · exact .single nofun nofun
  · refine .list fun d hd => ?_
    obtain ⟨b, hb, rfl⟩ := List.mem_map.mp hd
    exact (h b hb).value
  · refine .list fun d hd => ?_
    obtain ⟨p, hp, rfl⟩ := List.mem_map.mp hd
    obtain ⟨b, hb, rfl⟩ := List.mem_map.mp hp
    cases hpair : b.pair? with
    | none => exact .single nofun nofun
    | some p => exact (h b hb).pair p hpair
  · exact distinct_ofEntries h fun es hes =>
      Datum.distinct_record_iff.mpr (Entry.distinct_members hes)
  · refine distinct_ofEntries h fun es hes => .list fun d hd => ?_
    obtain ⟨e, he, rfl⟩ := List.mem_map.mp hd
    exact (hes e he).key
  · unfold blank
    split
    · exact Datum.distinct_record_iff.mpr Members.distinct_nil
    · exact .list nofun
  · exact .single nofun nofun

/-- A node that is put together from its parts has distinct names if they have. -/
theorem distinct_built (tag : Option String) (h : f.Distinct) : (f.built tag).Distinct where
  value := distinct_make h _
  taken _ hes := distinct_taken? h hes
  pair _ hp := distinct_pair? h hp

end Form

/-! ## documents -/

/-- Nothing is left within a node that could have names. -/
theorem Node.distinct_bare (n : Node) : n.bare.Distinct := by
  have hsequence : (Form.sequence []).Distinct := by simp [Form.Distinct]
  have hmapping : (Form.mapping []).Distinct := by simp [Form.Distinct]
  have hscalar : (Form.scalar "" true).Distinct := trivial
  unfold bare
  split
  · exact Form.distinct_built _ hsequence
  · exact Form.distinct_built _ hmapping
  · exact Form.distinct_built _ hscalar

/-- Some steps keep a property that each of them keeps. -/
theorem repeat_of_step {α : Type} {P : α → Prop} {step : α → α} (hstep : ∀ a, P a → P (step a))
    {a : α} (ha : P a) (n : Nat) : P (Nat.repeat step n a) := by
  induction n with
  | zero => exact ha
  | succ n ih => exact hstep _ ih

/-- All nodes with names have distinct names within. -/
def AllDistinct (named : List (String × Built)) : Prop := ∀ p ∈ named, p.2.Distinct

/-- One more node with a name. -/
theorem AllDistinct.cons {named : List (String × Built)} (h : AllDistinct named) (name : String)
    {b : Built} (hb : b.Distinct) : AllDistinct ((name, b) :: named) :=
  List.forall_mem_cons.mpr ⟨hb, h⟩

mutual

/-- A node has distinct names if those have that it may mention. -/
theorem Node.distinct_build {named : List (String × Built)} (h : AllDistinct named) :
    (n : Node) → (n.build named).1.Distinct ∧ AllDistinct (n.build named).2
  | .scalar tag text isPlain => by
    rw [Node.build]
    exact ⟨Form.distinct_built tag trivial, h⟩
  | .sequence tag items => by
    rw [Node.build]
    obtain ⟨hitems, hnamed⟩ := distinct_buildItems h items
    exact ⟨Form.distinct_built tag hitems, hnamed⟩
  | .mapping tag entries => by
    rw [Node.build]
    obtain ⟨hentries, hnamed⟩ := distinct_buildEntries h entries
    exact ⟨Form.distinct_built tag hentries, hnamed⟩
  | .named name n => by
    -- What the name stands for within its node is unfolded step by step from the bare node.
    have hunfold (b : Built) (hb : b.Distinct) :
        (n.build ((name, b) :: named)).1.quiet.Distinct :=
      (Node.distinct_build (h.cons name hb) n).1.quiet
    have hwithin := repeat_of_step hunfold n.distinct_bare
    rw [Node.build]
    dsimp only
    split
    · obtain ⟨hb, hnamed⟩ := Node.distinct_build (h.cons name (hwithin unfoldings)) n
      exact ⟨hb, hnamed.cons name hb⟩
    · obtain ⟨hb, hnamed⟩ := Node.distinct_build (h.cons name n.distinct_bare) n
      exact ⟨hb, hnamed.cons name hb⟩
  | .mention name => by
    rw [Node.build]
    refine ⟨?_, h⟩
    cases hget : Pairs.get? named name with
    | none => exact Node.empty.distinct_bare
    | some b => exact h _ (Pairs.mem_of_get? hget)

/-- So have the items of a sequence. -/
theorem distinct_buildItems {named : List (String × Built)} (h : AllDistinct named) :
    (ns : List Node) →
      (∀ b ∈ (buildItems named ns).1, b.Distinct) ∧ AllDistinct (buildItems named ns).2
  | [] => by
    rw [buildItems]
    exact ⟨by simp, h⟩
  | n :: ns => by
    rw [buildItems]
    obtain ⟨hb, hnamed⟩ := Node.distinct_build h n
    obtain ⟨hbs, hnamed⟩ := distinct_buildItems hnamed ns
    exact ⟨List.forall_mem_cons.mpr ⟨hb, hbs⟩, hnamed⟩

/-- So have the keys and the values of a mapping. -/
theorem distinct_buildEntries {named : List (String × Built)} (h : AllDistinct named) :
    (es : List (Node × Node)) →
      (∀ e ∈ (buildEntries named es).1, e.1.Distinct ∧ e.2.Distinct) ∧
        AllDistinct (buildEntries named es).2
  | [] => by
    rw [buildEntries]
    exact ⟨by simp, h⟩
  | (key, value) :: es => by
    rw [buildEntries]
    obtain ⟨hkey, hnamed⟩ := Node.distinct_build h key
    obtain ⟨hvalue, hnamed⟩ := Node.distinct_build hnamed value
    obtain ⟨hbs, hnamed⟩ := distinct_buildEntries hnamed es
    exact ⟨List.forall_mem_cons.mpr ⟨⟨hkey, hvalue⟩, hbs⟩, hnamed⟩

end

/-- The value of a document names no member twice. -/
theorem distinct_of_read {text : String} {d : Datum} (h : read text = .ok d) : d.Distinct := by
  rw [read] at h
  cases hroot : compose text with
  | error f =>
    rw [hroot] at h
    contradiction
  | ok root =>
    rw [hroot] at h
    have hnone : AllDistinct [] := nofun
    obtain ⟨hdistinct, -⟩ := Node.distinct_build hnone root
    dsimp only [bind, Except.bind] at h
    split at h
    · contradiction
    · exact Except.ok.inj h ▸ hdistinct.value

/-! ## readers -/

/-- A way in which documents are read.  A document that has no end, as a part of it is mentioned
within itself, may be given up to some depth, as settings are read from the outer levels only
(`Settings.loadWith_congr`). -/
structure Reader where
  /-- The value of a document, or why it has none. -/
  read : String → Except Fault Datum
  /-- No record in it names a member twice. -/
  distinct : ∀ {content d}, read content = .ok d → d.Distinct

/-- The way in which documents are read here. -/
def reader : Reader := ⟨Document.read, distinct_of_read⟩

end Document

end ChatCommands
