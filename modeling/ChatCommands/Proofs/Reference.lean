import ChatCommands.Proofs.Fault
import ChatCommands.Proofs.Question

/-!
# ChatCommands.Proofs.Reference

What a match asks the directory.  A token that is bound to a user or a channel
makes the directory be asked once, for the id or the name that the token gives
(`Kind.question?`), and nothing else makes it be asked: neither a parameter that
is passed over, nor a token that stops the match, nor one that is left over.

So the questions of a match are those of its bound tokens, in order, whether it
succeeds or not, and the answers are the values of the bound users and channels
(`one_question_per_reference`).  Which tokens are bound where is decided without
the directory; an unknown user or channel uses its token up like a known one.
-/

namespace ChatCommands

/-- The questions that some tokens make at some places among the parameters. -/
def boundQuestions (server : Server) (tokens : List String) (parameters : List Parameter)
    (places : List Nat) : List Lookup :=
  (places.zip tokens).filterMap fun (j, t) =>
    parameters[j]?.bind fun p => p.kind.question? server t

/-- The user or the channel that a directory answers with, if that is what is asked for. Of several
users with a name the first is meant. -/
def Lookup.answer? (directory : Directory) : Lookup → Option Value
  | userById server id => some (.user (directory.userById server id))
  | usersByName server name => some (.user (directory.usersByName server name).head?)
  | channelById server id => some (.channel (directory.channelById server id))
  | _ => none

/-- Whether a value is a user or a channel, known or not. -/
def Value.isReference : Value → Bool
  | user _ => true
  | channel _ => true
  | _ => false

variable {directory : Directory} {server : Server} {ts ts' : List String}
  {ps ps' : List Parameter} {places : List Nat}

/-! ## questions along a walk -/

theorem boundQuestions_pass (p : Parameter) :
    boundQuestions server ts (p :: ps) (places.map (· + 1)) =
      boundQuestions server ts ps places := by
  simp only [boundQuestions, List.zip_map_left, List.filterMap_map]
  rfl

theorem boundQuestions_bind (t : String) (p : Parameter) :
    boundQuestions server (t :: ts) (p :: ps) (0 :: places.map (· + 1)) =
      (p.kind.question? server t).toList ++ boundQuestions server ts ps places := by
  have hrest : boundQuestions server (t :: ts) (p :: ps) (0 :: places.map (· + 1)) =
      (p.kind.question? server t).toList ++
        boundQuestions server ts (p :: ps) (places.map (· + 1)) := by
    simp only [boundQuestions, List.zip_cons_cons, List.filterMap_cons]
    cases hq : p.kind.question? server t <;> simp [hq]
  rw [hrest, boundQuestions_pass]

/-- The answer to the question that a token makes is the value that is read from the token. -/
theorem Kind.map_answer?_question? (kind : Kind) (token : String) :
    (kind.question? server token).toList.map (Lookup.answer? directory) =
      ([kind.reading directory server token].filter Value.isReference).map some := by
  cases kind with
  | user =>
      simp only [question?, reading]
      cases Form.of token.toList <;> rfl
  | _ => rfl

namespace Walk

/-- Aligning from the start of a walk asks the questions of the walk, and goes on from where the
walk has come to. -/
theorem lookups_align (h : Walk ts ps places ts' ps') (directory : Directory) (server : Server) :
    (ChatCommands.align directory server ts ps).lookups =
      boundQuestions server ts ps places ++
        (ChatCommands.align directory server ts' ps').lookups := by
  induction h with
  | stay => rfl
  | @bind t p ts ts' ps ps' places hbad haccepts hw ih =>
      obtain ⟨source, hoffer, -, hlookups⟩ := offer_of_accepts hbad haccepts
      rw [boundQuestions_bind, ChatCommands.align, hoffer]
      simp only [Alignment.bind, hlookups, ih, List.append_assoc]
  | @pass t p ts ts' ps ps' places hbad hrefuses hoptional hw ih =>
      rw [boundQuestions_pass, ChatCommands.align, offer_of_not_accepts hbad hrefuses]
      simp only [hoptional, if_true]
      exact ih

/-- The answers to the questions of a walk are the users and channels that it binds. -/
theorem answers_eq (h : Walk ts ps places ts' ps') (directory : Directory) (server : Server) :
    (boundQuestions server ts ps places).map (Lookup.answer? directory) =
      (((boundArguments directory server ts ps places).map Argument.value).filter
        Value.isReference).map some := by
  induction h with
  | stay => rfl
  | @bind t p ts ts' ps ps' places hbad haccepts hw ih =>
      rw [boundQuestions_bind, boundArguments_bind, List.map_append, ih,
        p.kind.map_answer?_question?, ← List.map_append, ← List.filter_append]
      rfl
  | pass hbad hrefuses hoptional hw ih => rw [boundQuestions_pass, boundArguments_pass, ih]

end Walk

/-- Where a walk cannot go on, nothing is bound and nothing asked. -/
theorem align_of_atEnd (directory : Directory) (server : Server) (h : AtEnd ts ps) :
    (align directory server ts ps).bound = [] ∧ (align directory server ts ps).lookups = [] := by
  rcases h.out_or_stops with hout | ⟨t, ts', p, ps', rfl, rfl, hstops⟩
  · rw [align_of_out directory server hout]
    exact ⟨rfl, rfl⟩
  · rw [align_of_stops directory server hstops]
    exact ⟨rfl, rfl⟩

/-! ## questions of a match -/

/-- A successful match returns all that was bound. -/
theorem eq_ofArguments_of_ok {bag : Bag}
    (h : (matchTokens directory server ts ps).result = .ok bag) :
    bag = Bag.ofArguments (align directory server ts ps).bound := by
  unfold matchTokens at h
  dsimp only at h
  split at h
  · contradiction
  · split at h
    · contradiction
    · exact (Except.ok.inj h).symm

/-- **One question for each reference**: with distinct names, some of the tokens are bound at
certain places among the parameters, whatever the directory answers: all that are aligned, or
those in front of the token that stops.  The questions of the match, whether it succeeds or not,
are exactly those of the tokens bound to users and channels, in order: by the id of a mention or
by the text of an integer, and otherwise by name.  Their answers are the values of the bound users
and channels, and a successful match has all that is bound in its bag, known or not. -/
theorem one_question_per_reference (tokens : List String) (parameters : List Parameter)
    (hnames : (parameters.map Parameter.name).Nodup) :
    ∃ places, (Greedy tokens parameters places ∨
        ∃ j t p, StopsAt tokens parameters places j t p) ∧
      ∀ (directory : Directory) (server : Server),
        (align directory server tokens parameters).bound =
          boundArguments directory server tokens parameters places ∧
        (matchTokens directory server tokens parameters).lookups =
          boundQuestions server tokens parameters places ∧
        (matchTokens directory server tokens parameters).lookups.map (Lookup.answer? directory) =
          (((boundArguments directory server tokens parameters places).map Argument.value).filter
            Value.isReference).map some ∧
        ∀ bag, (matchTokens directory server tokens parameters).result = .ok bag →
          bag.entries = (boundArguments directory server tokens parameters places).map
            fun a => (a.name, a) := by
  obtain ⟨places, ts', ps', hw, hend⟩ := exists_walk_atEnd tokens parameters
  refine ⟨places, ?_, fun directory server => ?_⟩
  · rcases hend.out_or_stops with hout | ⟨t, ts'', p, ps'', rfl, rfl, hstops⟩
    · exact .inl (greedy_iff_walk.mpr ⟨ts', ps', hw, hout⟩)
    · obtain ⟨front, rfl, hfront, -⟩ := hw.exists_front (World.directory {}) ⟨"", ""⟩
      exact .inr ⟨_, t, p, stopsAt_iff_walk.mpr ⟨front, ts'', ps'', rfl, rfl, hfront, hstops⟩⟩
  · obtain ⟨hnobound, hnolookups⟩ := align_of_atEnd directory server hend
    have hbound := (hw.align directory server).1
    have hlookups := hw.lookups_align directory server
    rw [hnobound, List.append_nil] at hbound
    rw [hnolookups, List.append_nil] at hlookups
    rw [lookups_matchTokens, hlookups]
    refine ⟨hbound, rfl, hw.answers_eq directory server, fun bag hbag => ?_⟩
    rw [eq_ofArguments_of_ok hbag, hbound, hw.entries_ofArguments directory server hnames]

/-- Two users, a count and a channel. -/
def usersAndChannel : List Parameter :=
  [⟨.user, "who", false⟩, ⟨.user, "whom", false⟩, ⟨.long, "n", true⟩, ⟨.channel, "where", true⟩]

/-- Nobody is known, and yet a name, an integer with its sign and its zeros, and a mention that a
count passes on are all bound; the last token makes no question. -/
theorem questions_of_usersAndChannel :
    (usersAndChannel.map Parameter.name).Nodup ∧
    ∃ places,
      (align (World.directory {}) ⟨"s", "S"⟩ ["bob", "-007", "<#!5>", "<@6>"]
          usersAndChannel).bound =
        boundArguments (World.directory {}) ⟨"s", "S"⟩ ["bob", "-007", "<#!5>", "<@6>"]
          usersAndChannel places ∧
      boundArguments (World.directory {}) ⟨"s", "S"⟩ ["bob", "-007", "<#!5>", "<@6>"]
          usersAndChannel places =
        [⟨"who", .user none⟩, ⟨"whom", .user none⟩, ⟨"where", .channel none⟩] ∧
      boundQuestions ⟨"s", "S"⟩ ["bob", "-007", "<#!5>", "<@6>"] usersAndChannel places =
        [.usersByName ⟨"s", "S"⟩ "bob", .userById ⟨"s", "S"⟩ "-007",
          .channelById ⟨"s", "S"⟩ "5"] := by
  have hnames : (usersAndChannel.map Parameter.name).Nodup := by decide
  obtain ⟨places, -, h⟩ := one_question_per_reference ["bob", "-007", "<#!5>", "<@6>"]
    usersAndChannel hnames
  obtain ⟨hbound, hlookups, -, -⟩ := h (World.directory {}) ⟨"s", "S"⟩
  refine ⟨hnames, places, hbound, ?_, ?_⟩
  · rw [← hbound]
    decide
  · rw [← hlookups]
    decide

end ChatCommands
