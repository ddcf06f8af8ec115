import ChartTrace.Proofs.YamlTokens
import ChartTrace.Yaml.Event

namespace ChartTrace.Yaml

/-!
# Places of events

An event stands where one of its tokens starts or stops, and a fault of the parser does too.

* `Parser.IsPlaced`: the tokens that are left, and the fault behind them, are at places of the text.
* `Parser.ensures_step`: the next event is at such a place, and leaves a parser of that kind.
* `placed_events`: the events of a text and their fault are at places of the text.
-/

open Cursor

variable {o : Cursor}

namespace Parser

/-- The tokens that are left and the fault that ends them are at places a reader comes to from
    `o`. -/
structure IsPlaced (o : Cursor) (p : Parser) : Prop where
  tokens : ∀ t ∈ p.tokens, t.IsPlaced o
  fault : ∀ f ∈ p.fault, o.PlacesFault f

/-- An event at a place, with a parser that knows places only. -/
def EmitsPlace (o : Cursor) (r : PlacedEvent × Parser) : Prop := o.Places r.1.position ∧ r.2.IsPlaced o

/-- Properties of a node that start at places. -/
def Properties.IsPlaced (o : Cursor) (r : Properties) : Prop :=
  o.Places r.start ∧ ∀ tag ∈ r.tag, o.Places tag.2.2

variable {p : Parser}

theorem IsPlaced.skip (h : p.IsPlaced o) : p.skip.IsPlaced o :=
  ⟨fun t ht => h.tokens t (List.mem_of_mem_tail ht), h.fault⟩

theorem IsPlaced.goTo (h : p.IsPlaced o) (state : ParseState) : (p.goTo state).IsPlaced o :=
  ⟨h.tokens, h.fault⟩

theorem IsPlaced.returnTo (h : p.IsPlaced o) (state : ParseState) : (p.returnTo state).IsPlaced o :=
  ⟨h.tokens, h.fault⟩

/-- Going back to the state that was put aside last, or to the end where there is none. -/
theorem IsPlaced.leave (h : p.IsPlaced o) : p.leave.IsPlaced o := by
  unfold Parser.leave
  split <;> exact ⟨h.tokens, h.fault⟩

/-- The end of a collection is a way back, too. -/
theorem IsPlaced.closeCollection (h : p.IsPlaced o) : p.closeCollection.IsPlaced o :=
  ⟨h.leave.tokens, h.leave.fault⟩

/-- An event at a place that is known, which changes the parser no further. -/
theorem IsPlaced.emit {event : Event} {q : Position} (h : p.IsPlaced o) (hq : o.Places q) :
    Ensures o.PlacesFault (EmitsPlace o) (p.emit event q) :=
  ⟨hq, h⟩

/-- A scalar that is not written stands where it would be, and the parser goes on in another state. -/
theorem IsPlaced.emitEmpty {state : ParseState} {q : Position} (h : p.IsPlaced o) (hq : o.Places q) :
    Ensures o.PlacesFault (EmitsPlace o) (p.emitEmpty state q) :=
  ⟨hq, h.goTo state⟩

variable (ho : o.Places .origin)
include ho

/-- The next token, or the fault of the scanner where the tokens end in one.  Behind the last token
    there is a token for the end of the stream at the origin, which is where `ho` is used. -/
theorem ensures_peek (h : p.IsPlaced o) : Ensures o.PlacesFault (·.IsPlaced o) p.peek := by
  unfold peek
  split
  · next t ts htokens => exact h.tokens t (by simp [htokens])
  · next f _ hfault => exact h.fault f hfault
  · exact ⟨ho, ho⟩

/-! ### Nodes -/

/-- An anchor and a tag in either order.  They start with the first of them, and the tag keeps its own
    place for the fault about an unknown handle. -/
theorem ensures_properties (h : p.IsPlaced o) :
    Ensures o.PlacesFault (fun r => r.1.IsPlaced o ∧ r.2.IsPlaced o) p.properties := by
  unfold properties
  refine (ensures_peek ho h).bind fun t ht => ?_
  split
  · refine (ensures_peek ho h.skip).bind fun u hu => ?_
    split
    · -- The tag is the second token here, and the first one in the other order.
      exact ⟨⟨ht.1, by simpa using hu.1⟩, h.skip.skip⟩
    · exact ⟨⟨ht.1, nofun⟩, h.skip⟩
  · refine (ensures_peek ho h.skip).bind fun u hu => ?_
    split
    · exact ⟨⟨ht.1, by simpa using ht.1⟩, h.skip.skip⟩
    · exact ⟨⟨ht.1, by simpa using ht.1⟩, h.skip⟩
  · exact ⟨⟨ht.1, nofun⟩, h⟩

omit ho in
/-- A handle that stands for nothing is at fault where its tag is. -/
theorem ensures_fullTag {r : Properties} (hr : r.IsPlaced o) :
    Ensures o.PlacesFault (fun _ => True) (p.fullTag r) := by
  unfold fullTag
  split
  · trivial
  · trivial
  · next htag =>
    split
    · trivial
    · exact hr.2 _ htag

/-- A node is an alias, or has properties in front of its content; without content it must have
    properties.  Its event stands where the properties start, which is where the content starts when
    there are none. -/
theorem ensures_node {block indentless : Bool} (h : p.IsPlaced o) :
    Ensures o.PlacesFault (EmitsPlace o) (p.node block indentless) := by
  unfold node
  refine (ensures_peek ho h).bind fun t ht => ?_
  dsimp only
  split
  · exact ⟨ht.1, h.leave.skip⟩
  · refine (ensures_properties ho h).bind fun r hr => ?_
    refine (ensures_peek ho hr.2).bind fun u hu => ?_
    refine (ensures_fullTag hr.1).bind fun tag _ => ?_
    split
    · exact hr.2.leave.skip.emit hr.1.1
    · exact (hr.2.goTo _).emit hr.1.1
    · exact (hr.2.goTo _).emit hr.1.1
    · -- What can open a block collection, then an empty scalar, and otherwise the token is at fault.
      refine .ite (fun _ => (hr.2.goTo _).emit hr.1.1) ?_
      refine .ite (fun _ => (hr.2.goTo _).emit hr.1.1) ?_
      refine .ite (fun _ => (hr.2.goTo _).emit hr.1.1) ?_
      exact .ite (fun _ => hr.2.leave.emit hr.1.1) hu.1

/-! ### Documents -/

/-- Run lemma of the directives in front of a document, each of which is at fault where it starts. -/
theorem ensures_directives_go {fuel : Nat} {versioned : Bool} {handles : List (List Char × Bytes)}
    (h : p.IsPlaced o) :
    Ensures o.PlacesFault (·.IsPlaced o) (directives.go fuel p versioned handles) := by
  induction fuel generalizing p versioned handles with
  | zero => exact h
  | succ fuel ih =>
    unfold directives.go
    refine (ensures_peek ho h).bind fun t ht => ?_
    split
    · -- A version may be given once, and must be one that is known.
      dsimp only
      split
      · exact ht.1
      · split
        · exact ht.1
        · exact ih h.skip
    · -- A handle may be given once.
      dsimp only
      split
      · exact ht.1
      · exact ih h.skip
    · exact ⟨h.tokens, h.fault⟩

omit ho in
/-- Ends of documents that follow each other are passed over. -/
theorem IsPlaced.skipDocumentEnds (h : p.IsPlaced o) : p.skipDocumentEnds.IsPlaced o :=
  ⟨fun t ht => h.tokens t ((List.dropWhile_sublist _).subset ht), h.fault⟩

/-- The start of a document: the end of the stream, content without a start of its own, or directives
    and an explicit start. -/
theorem ensures_documentStart {first : Bool} (h : p.IsPlaced o) :
    Ensures o.PlacesFault (EmitsPlace o) (p.documentStart first) := by
  unfold documentStart
  have hstart : (if first then p else p.skipDocumentEnds).IsPlaced o := by
    split
    · exact h
    · exact h.skipDocumentEnds
  -- Between two documents there may be any number of ends, which makes no difference from here on.
  generalize (if first then p else p.skipDocumentEnds) = p at hstart
  refine (ensures_peek ho hstart).bind fun t ht => ?_
  refine .ite (fun _ => (hstart.goTo _).skip.emit ht.1) ?_
  refine .ite (fun _ => ⟨ht.1, hstart.tokens, hstart.fault⟩) ?_
  refine (ensures_directives_go ho hstart).bind fun p' hp' => ?_
  refine (ensures_peek ho hp').bind fun u hu => ?_
  dsimp only
  split
  · exact hu.1
  · exact ((hp'.returnTo _).goTo _).skip.emit ht.1

/-- The content of a document, which is an empty scalar where the document ends at once. -/
theorem ensures_documentContent (h : p.IsPlaced o) :
    Ensures o.PlacesFault (EmitsPlace o) p.documentContent := by
  unfold documentContent
  refine (ensures_peek ho h).bind fun t ht => ?_
  exact .ite (fun _ => h.leave.emit ht.1) (ensures_node ho h)

/-- The end of a document, explicit or not. -/
theorem ensures_documentEnd (h : p.IsPlaced o) :
    Ensures o.PlacesFault (EmitsPlace o) p.documentEnd := by
  unfold documentEnd
  refine (ensures_peek ho h).bind fun t ht => ?_
  dsimp only
  split
  · exact (h.skip.goTo _).emit ht.1
  · exact (h.goTo _).emit ht.1

/-! ### Collections -/

/-- What follows an indicator: a node, or an empty scalar behind the indicator where a token of `ends`
    follows. -/
theorem ensures_nodeBehind {t : Token} {ends : List TokenKind} {indentless : Bool} {state : ParseState}
    (h : p.IsPlaced o) (ht : t.IsPlaced o) :
    Ensures o.PlacesFault (EmitsPlace o) (p.nodeBehind t ends indentless state) := by
  unfold nodeBehind
  refine (ensures_peek ho h.skip).bind fun u _ => ?_
  exact .ite (fun _ => h.skip.emitEmpty ht.2) (ensures_node ho (h.skip.returnTo _))

/-- A dash, or the end of the sequence. -/
theorem ensures_blockSequenceEntry (h : p.IsPlaced o) :
    Ensures o.PlacesFault (EmitsPlace o) p.blockSequenceEntry := by
  unfold blockSequenceEntry
  refine (ensures_peek ho h).bind fun t ht => ?_
  split
  · exact ensures_nodeBehind ho h ht
  · exact h.closeCollection.skip.emit ht.1
  · exact ht.1

/-- A dash, or whatever follows: this sequence has no column of its own, and so no token for its end. -/
theorem ensures_indentlessEntry (h : p.IsPlaced o) :
    Ensures o.PlacesFault (EmitsPlace o) p.indentlessEntry := by
  unfold indentlessEntry
  refine (ensures_peek ho h).bind fun t ht => ?_
  split
  · exact ensures_nodeBehind ho h ht
  · exact h.leave.emit ht.1

/-- A key, or the end of the mapping. -/
theorem ensures_blockMappingKey (h : p.IsPlaced o) :
    Ensures o.PlacesFault (EmitsPlace o) p.blockMappingKey := by
  unfold blockMappingKey
  refine (ensures_peek ho h).bind fun t ht => ?_
  split
  · exact ensures_nodeBehind ho h ht
  · exact h.closeCollection.skip.emit ht.1
  · exact ht.1

/-- The value of a key, or an empty scalar where no colon follows. -/
theorem ensures_blockMappingValue (h : p.IsPlaced o) :
    Ensures o.PlacesFault (EmitsPlace o) p.blockMappingValue := by
  unfold blockMappingValue
  refine (ensures_peek ho h).bind fun t ht => ?_
  split
  · exact ensures_nodeBehind ho h ht
  · exact h.emitEmpty ht.1

/-- Entries of a flow collection are separated by commas; the first one has none in front of it. -/
theorem ensures_separator {first : Bool} {problem : Problem} {activity : Activity} (h : p.IsPlaced o) :
    Ensures o.PlacesFault (·.IsPlaced o) (p.separator first problem activity) := by
  unfold separator
  split
  · exact h
  · refine (ensures_peek ho h).bind fun t ht => ?_
    exact .ite (fun _ => h.skip) ht.1

/-- An entry, which is a mapping of one pair where it starts with a key, or the end of the sequence. -/
theorem ensures_flowSequenceEntry {first : Bool} (h : p.IsPlaced o) :
    Ensures o.PlacesFault (EmitsPlace o) (p.flowSequenceEntry first) := by
  unfold flowSequenceEntry
  refine (ensures_peek ho h).bind fun t ht => ?_
  refine .ite (fun _ => h.closeCollection.skip.emit ht.1) ?_
  -- The bracket may stand behind the comma of the last entry as well.
  refine (ensures_separator ho h).bind fun p' hp' => ?_
  refine (ensures_peek ho hp').bind fun u hu => ?_
  split
  · exact (hp'.goTo _).skip.emit hu.1
  · exact hp'.closeCollection.skip.emit hu.1
  · exact ensures_node ho (hp'.returnTo _)

/-- The key of a mapping of one pair, which may be left out. -/
theorem ensures_pairKey (h : p.IsPlaced o) : Ensures o.PlacesFault (EmitsPlace o) p.pairKey := by
  unfold pairKey
  refine (ensures_peek ho h).bind fun t ht => ?_
  exact .ite (fun _ => h.skip.emitEmpty ht.2) (ensures_node ho (h.returnTo _))

/-- The value of a key in a flow collection; without a colon, or with nothing behind it, it is an empty
    scalar. -/
theorem ensures_flowValue {ends : List TokenKind} {state : ParseState} (h : p.IsPlaced o) :
    Ensures o.PlacesFault (EmitsPlace o) (p.flowValue ends state) := by
  unfold flowValue
  refine (ensures_peek ho h).bind fun t ht => ?_
  refine .ite (fun _ => ?_) (h.emitEmpty ht.1)
  refine (ensures_peek ho h.skip).bind fun u hu => ?_
  exact .ite (fun _ => h.skip.emitEmpty hu.1) (ensures_node ho (h.skip.returnTo _))

/-- The end of a mapping of one pair is not written. -/
theorem ensures_pairEnd (h : p.IsPlaced o) : Ensures o.PlacesFault (EmitsPlace o) p.pairEnd := by
  unfold pairEnd
  exact (ensures_peek ho h).bind fun t ht => (h.goTo _).emit ht.1

/-- A key with or without its indicator, or the end of the mapping. -/
theorem ensures_flowMappingKey {first : Bool} (h : p.IsPlaced o) :
    Ensures o.PlacesFault (EmitsPlace o) (p.flowMappingKey first) := by
  unfold flowMappingKey
  refine (ensures_peek ho h).bind fun t ht => ?_
  refine .ite (fun _ => h.closeCollection.skip.emit ht.1) ?_
  refine (ensures_separator ho h).bind fun p' hp' => ?_
  refine (ensures_peek ho hp').bind fun u hu => ?_
  split
  · refine (ensures_peek ho hp'.skip).bind fun v hv => ?_
    exact .ite (fun _ => hp'.skip.emitEmpty hv.1) (ensures_node ho (hp'.skip.returnTo _))
  · exact hp'.closeCollection.skip.emit hu.1
  · exact ensures_node ho (hp'.returnTo _)

/-- A collection is entered behind the token that starts it, with its first entry. -/
theorem ensures_enter {first : Parser → Step} (h : p.IsPlaced o)
    (hfirst : ∀ p : Parser, p.IsPlaced o → Ensures o.PlacesFault (EmitsPlace o) (first p)) :
    Ensures o.PlacesFault (EmitsPlace o) (p.enter first) := by
  unfold enter
  refine (ensures_peek ho h).bind fun t _ => hfirst _ ?_
  exact IsPlaced.skip (p := p.openCollection t.start) ⟨h.tokens, h.fault⟩

/-! ### Runs -/

/-- **One step.** In every state the parser emits an event at a place of the text, or fails at one, and
    knows places only when it goes on. -/
theorem ensures_step (h : p.IsPlaced o) : Ensures o.PlacesFault (EmitsPlace o) p.step := by
  unfold step
  cases p.state with
  | firstDocument => exact ensures_documentStart ho h
  | document => exact ensures_documentStart ho h
  | documentContent => exact ensures_documentContent ho h
  | documentEnd => exact ensures_documentEnd ho h
  | blockNode => exact ensures_node ho h
  | blockSequenceStart => exact ensures_enter ho h fun _ => ensures_blockSequenceEntry ho
  | blockSequenceEntry => exact ensures_blockSequenceEntry ho h
  | indentlessEntry => exact ensures_indentlessEntry ho h
  | blockMappingStart => exact ensures_enter ho h fun _ => ensures_blockMappingKey ho
  | blockMappingKey => exact ensures_blockMappingKey ho h
  | blockMappingValue => exact ensures_blockMappingValue ho h
  | flowSequenceStart => exact ensures_enter ho h fun _ => ensures_flowSequenceEntry ho
  | flowSequenceEntry => exact ensures_flowSequenceEntry ho h
  | pairKey => exact ensures_pairKey ho h
  | pairValue => exact ensures_flowValue ho h
  | pairEnd => exact ensures_pairEnd ho h
  | flowMappingStart => exact ensures_enter ho h fun _ => ensures_flowMappingKey ho
  | flowMappingKey => exact ensures_flowMappingKey ho h
  | flowMappingValue => exact ensures_flowValue ho h
  | flowMappingNoValue => exact (ensures_peek ho h).bind fun t ht => h.emitEmpty ht.1
  | finished => exact h.emit ho

/-- Run lemma: from such a parser on all events are at places of the text, and so is the fault that ends
    them. -/
theorem placed_run {fuel : Nat} (h : p.IsPlaced o) :
    (∀ e ∈ (run fuel p).1, o.Places e.position) ∧ ∀ f ∈ (run fuel p).2, o.PlacesFault f := by
  fun_induction run fuel p with
  | case1 => exact ⟨by simp, by simp⟩
  | case2 fuel p f hstep => exact ⟨by simp, by simpa using (ensures_step ho h).of_error hstep⟩
  -- The end of the stream is the last event.
  | case3 fuel p e p' hstep hend =>
    exact ⟨by simpa using ((ensures_step ho h).of_ok hstep).1, by simp⟩
  | case4 fuel p e p' hstep hend es fault hrun ih =>
    have he : EmitsPlace o (e, p') := (ensures_step ho h).of_ok hstep
    have hes := ih he.2
    rw [hrun] at hes
    exact ⟨List.forall_mem_cons.mpr ⟨he.1, hes.1⟩, hes.2⟩

end Parser

/-- Events of tokens at places are at places, and so is the fault that ends them. -/
theorem placed_events {ts : List Token} {fault : Option Fault} (ho : o.Places .origin)
    (h : Scanner.GivesPlaces o (ts, fault)) :
    (∀ e ∈ (events ts fault).1, o.Places e.position)
      ∧ ∀ f ∈ (events ts fault).2, o.PlacesFault f :=
  Parser.placed_run ho ⟨h.1, h.2⟩

end ChartTrace.Yaml
