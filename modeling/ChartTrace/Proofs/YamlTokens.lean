import Mathlib.Data.List.InsertIdx
import ChartTrace.Proofs.YamlPlaces

namespace ChartTrace.Yaml

/-!
# Places of tokens

Every token of a text starts and stops where the cursor has been, or at the end of the text moved to a
line of its own, and so does every fault of the scanner.

* `Scanner.IsPlaced`: the scanner stands, and has found its tokens and possible keys, at such places.
* `Scanner.ensures_fetch`: finding a token keeps that.
* `givesPlaces_tokens`: the tokens of a text and their fault are at places of the text.
-/

open Cursor

variable {o : Cursor}

/-- A token that starts and stops at places a reader comes to from `o`. -/
def Token.IsPlaced (o : Cursor) (t : Token) : Prop := o.Places t.start ∧ o.Places t.stop

namespace Scanner

/-- All that the scanner knows is at places a reader comes to from `o`. -/
structure IsPlaced (o : Cursor) (s : Scanner) : Prop where
  position : o.Places s.position
  queue : ∀ t ∈ s.queue, t.IsPlaced o
  spots : ∀ spot ∈ s.spot :: s.outerSpots, ∀ k ∈ spot, o.Places k.position

variable {s t : Scanner}

/-! ### Changes in place -/

/-- A token behind the others, with places of its own. -/
theorem IsPlaced.enqueue (h : s.IsPlaced o) (kind : TokenKind) {start stop : Position}
    (hstart : o.Places start) (hstop : o.Places stop) : (s.enqueue kind start stop).IsPlaced o where
  position := h.position
  queue := List.forall_mem_append.mpr ⟨h.queue, by simpa using ⟨hstart, hstop⟩⟩
  spots := h.spots

/-- A token among the others, of no extent: it opens what was not known to be open when the others were
    found. -/
theorem IsPlaced.insertAt (h : s.IsPlaced o) (number : Nat) (kind : TokenKind) {start : Position}
    (hstart : o.Places start) : (s.insertAt number kind start).IsPlaced o where
  position := h.position
  queue := by
    intro t ht
    rcases List.eq_or_mem_of_mem_insertIdx ht with rfl | ht
    · exact ⟨hstart, hstart⟩
    · exact h.queue t ht
  spots := h.spots

/-- A scanner in the same place of the text, which knows places only. -/
def StaysPlaced (o : Cursor) (s t : Scanner) : Prop := t.IsPlaced o ∧ t.cursor = s.cursor

/-- Changes in place follow each other. -/
theorem StaysPlaced.trans {u : Scanner} (h : StaysPlaced o s t) (hu : StaysPlaced o t u) :
    StaysPlaced o s u :=
  ⟨hu.1, hu.2.trans h.2⟩

/-- A collection that is opened by its column puts one token into the queue, at its end or at a token's
    number. -/
theorem IsPlaced.openBlock (h : s.IsPlaced o) (column : Nat) (number : Option Nat) (kind : TokenKind)
    {start : Position} (hstart : o.Places start) :
    StaysPlaced o s (s.openBlock column number kind start) := by
  unfold Scanner.openBlock
  split
  · exact ⟨h, rfl⟩
  · have hopen : { s with indent := column, outerIndents := s.indent :: s.outerIndents }.IsPlaced o :=
      ⟨h.position, h.queue, h.spots⟩
    cases number with
    | none => exact ⟨hopen.enqueue kind hstart hstart, rfl⟩
    | some n => exact ⟨hopen.insertAt n kind hstart, rfl⟩

/-- Collections that are closed by a column put one token each at the end of the queue, where the
    scanner stands. -/
theorem IsPlaced.closeBlocks (h : s.IsPlaced o) (column : Int) :
    StaysPlaced o s (s.closeBlocks column) := by
  unfold Scanner.closeBlocks
  split
  · exact ⟨h, rfl⟩
  · next hflow =>
    -- The loop is over the columns around the current one, whatever the scanner is; `hflow` speaks of
    -- it alone.
    clear hflow
    generalize s.outerIndents = outer
    fun_induction closeBlocks.go column outer s with
    | case1 s => exact ⟨h, rfl⟩
    | case2 outer rest s hlt ih =>
      have hend := h.enqueue .blockEnd h.position h.position
      exact ih ⟨hend.position, hend.queue, hend.spots⟩
    | case3 outer rest s hlt => exact ⟨h, rfl⟩

/-- A place for a key that has become too old is given up; where a key had to be there, the scanner's
    own place is at fault. -/
theorem ensures_checkSpot {spot : Option KeySpot} (hs : o.Places s.position)
    (hspot : ∀ k ∈ spot, o.Places k.position) :
    Ensures o.PlacesFault (fun spot => ∀ k ∈ spot, o.Places k.position) (s.checkSpot spot) := by
  unfold checkSpot
  split
  · exact nofun
  · split
    · exact hspot
    · split
      · exact hs
      · exact nofun

/-- Looking through the possible keys moves nothing and ends nothing. -/
theorem ensures_dropStale (h : s.IsPlaced o) :
    Ensures o.PlacesFault (fun t => StaysPlaced o s t ∧ t.ended = s.ended) s.dropStale := by
  have hspots := List.forall_mem_cons.mp h.spots
  have houter : ∀ spot ∈ s.outerSpots.reverse,
      Ensures o.PlacesFault (fun spot => ∀ k ∈ spot, o.Places k.position) (s.checkSpot spot) :=
    fun spot hspot => ensures_checkSpot h.position (hspots.2 spot (List.mem_reverse.mp hspot))
  unfold dropStale
  -- The keys around the current one are looked through from the outermost on, and then put back.
  refine (Ensures.mapM houter).bind fun outer hout => ?_
  refine (ensures_checkSpot h.position hspots.1).bind fun spot hspot => ?_
  have hall : ∀ spot' ∈ spot :: outer.reverse, ∀ k ∈ spot', o.Places k.position :=
    List.forall_mem_cons.mpr ⟨hspot, fun spot' hmem => hout spot' (List.mem_reverse.mp hmem)⟩
  exact ⟨⟨⟨h.position, h.queue, hall⟩, rfl⟩, rfl⟩

/-- Giving up the possible key, which is a fault where the key had to be there. -/
theorem ensures_dropSpot (h : s.IsPlaced o) : Ensures o.PlacesFault (StaysPlaced o s) s.dropSpot := by
  have hspots := List.forall_mem_cons.mp h.spots
  unfold dropSpot
  split
  · split
    · exact h.position
    · exact ⟨⟨h.position, h.queue, List.forall_mem_cons.mpr ⟨nofun, hspots.2⟩⟩, rfl⟩
  · exact ⟨h, rfl⟩

/-- A new possible key is where the scanner stands; the old one is given up for it. -/
theorem ensures_saveSpot (h : s.IsPlaced o) : Ensures o.PlacesFault (StaysPlaced o s) s.saveSpot := by
  unfold saveSpot
  split
  · exact ⟨h, rfl⟩
  · refine (ensures_dropSpot h).bind fun t ht => ?_
    have hspots := List.forall_mem_cons.mp ht.1.spots
    refine ⟨⟨ht.1.position, ht.1.queue, List.forall_mem_cons.mpr ⟨?_, hspots.2⟩⟩, ht.2⟩
    rintro k ⟨⟩
    exact h.position

/-! ### Finding tokens -/

/-- A scanner that has found a token: it knows places only, and its cursor is at one unless the
    stream has ended. -/
def HasFetched (o : Cursor) (s : Scanner) : Prop := s.IsPlaced o ∧ (s.ended = false → o.Reaches s.cursor)

/-- A token from the scanner's place on, with the cursor moved behind it. -/
theorem IsPlaced.found {stop : Position} {c : Cursor} {allowed : Bool} (h : s.IsPlaced o)
    (kind : TokenKind) (hstop : o.Places stop) (hc : o.Reaches c) :
    HasFetched o { s.enqueue kind s.position stop with cursor := c, keyAllowed := allowed } := by
  have hqueue := h.enqueue kind h.position hstop
  exact ⟨⟨hc.places, hqueue.queue, hqueue.spots⟩, fun _ => hc⟩

/-- Run lemma of the way to the next token, over blanks, comments and line breaks. -/
theorem reaches_skipToToken_go {inFlow allowed comment : Bool} {rest : List Char} {q : Position}
    (h : o.Reaches ⟨rest, q⟩) : o.Reaches (skipToToken.go inFlow rest q allowed comment).1 := by
  fun_induction skipToToken.go inFlow rest q allowed comment with
  | case1 q allowed comment => exact h
  | case2 ds q allowed comment ih => exact ih h.crlf
  | case3 d ds q allowed comment hcrlf hd ih => exact ih (h.nextLine hd hcrlf)
  -- Blanks and the text of a comment are alike here: no line break is among them.
  | case4 d ds q allowed comment hcrlf hd hskip ih => exact ih (h.next (by simpa using hd))
  | case5 d ds q allowed comment hcrlf hd hskip hmark ih => exact ih (h.next (by simpa using hd))
  | case6 d ds q allowed comment hcrlf hd hskip hmark => exact h

/-- The same from the start of the text on, where a byte order mark may stand. -/
theorem reaches_skipToToken (h : o.Reaches s.cursor) : o.Reaches s.skipToToken.cursor := by
  unfold skipToToken
  refine reaches_skipToToken_go ?_
  split
  · next hmark =>
    simp only [Bool.and_eq_true] at hmark
    exact h.skip_of_startsWith hmark.2 rfl
  · exact h

/-- The way to the next token changes the scanner's place only. -/
theorem IsPlaced.skipToToken (h : s.IsPlaced o) (hc : o.Reaches s.cursor) :
    s.skipToToken.IsPlaced o :=
  ⟨(reaches_skipToToken hc).places, h.queue, h.spots⟩

/-- An indicator of `n` characters at the cursor becomes a token over just these characters. -/
theorem StaysPlaced.indicator {kind : TokenKind} {n : Nat} {allowed : Bool} (h : StaysPlaced o s t)
    (hc : o.Reaches (s.cursor.skipMany n)) :
    HasFetched o ({ t with keyAllowed := allowed }.indicator kind n) := by
  rw [← h.2] at hc
  exact h.1.found kind hc.places hc

/-- A scalar becomes a token from the scanner's place to its own end, which the cursor may be beyond. -/
theorem IsPlaced.scalar {style : ScalarStyle} {r : ScannedScalar} {allowed : Bool} (h : s.IsPlaced o)
    (hr : r.IsPlaced o) :
    HasFetched o ({ s with keyAllowed := allowed }.scalar s.position style r) :=
  h.found (.scalar r.text style) hr.1 hr.2

/-- The end of the stream is the one token that stands at no cursor: it is moved to a line of its own
    unless it starts one.  `Places` is defined with this in mind. -/
theorem ensures_fetchStreamEnd (h : s.IsPlaced o) (hc : o.Reaches s.cursor) (hrest : s.cursor.rest = []) :
    Ensures o.PlacesFault (HasFetched o) s.fetchStreamEnd := by
  unfold fetchStreamEnd
  have hp : o.Places (if s.position.column = 0 then s.position
      else ⟨s.position.index, s.position.line + 1, 0⟩) := by
    split
    · exact h.position
    · next hcolumn => exact ⟨s.cursor, hc, Or.inr ⟨hrest, hcolumn, rfl⟩⟩
  dsimp only
  -- What follows works at the moved place, whatever it is.
  generalize (if s.position.column = 0 then s.position
    else ⟨s.position.index, s.position.line + 1, 0⟩) = p at hp ⊢
  have hend : { s with cursor := { s.cursor with position := p } }.IsPlaced o :=
    ⟨hp, h.queue, h.spots⟩
  refine (ensures_dropSpot (hend.closeBlocks (-1)).1).bind fun t ht => ?_
  have hdone := ht.1.enqueue .streamEnd hp hp
  exact ⟨⟨hdone.position, hdone.queue, hdone.spots⟩, nofun⟩

/-- Giving up the blocks and the possible key at the start of a line. -/
theorem ensures_leaveBlocks (h : s.IsPlaced o) :
    Ensures o.PlacesFault (StaysPlaced o s) (s.closeBlocks (-1)).dropSpot := by
  have hclose := h.closeBlocks (-1)
  exact (ensures_dropSpot hclose.1).mono fun t ht => hclose.trans ht

/-- A directive ends all blocks and is read by `takeDirective`. -/
theorem ensures_fetchDirective (h : s.IsPlaced o) (hskip : o.Reaches s.cursor.skip) :
    Ensures o.PlacesFault (HasFetched o) s.fetchDirective := by
  unfold fetchDirective
  refine (ensures_leaveBlocks h).bind fun t ht => ?_
  rw [← ht.2] at hskip
  exact (ensures_takeDirective hskip).bind fun r hr => ht.1.found r.1 hr.1 hr.2

/-- So does the start or the end of a document, which is three characters. -/
theorem ensures_fetchDocumentIndicator (kind : TokenKind) (h : s.IsPlaced o)
    (hskip : o.Reaches (s.cursor.skipMany 3)) :
    Ensures o.PlacesFault (HasFetched o) (s.fetchDocumentIndicator kind) := by
  unfold fetchDocumentIndicator
  exact (ensures_leaveBlocks h).bind fun t ht => ht.indicator hskip

/-- An opening bracket may start a key, and in it a key is possible again. -/
theorem ensures_fetchFlowStart (kind : TokenKind) (h : s.IsPlaced o) (hskip : o.Reaches s.cursor.skip) :
    Ensures o.PlacesFault (HasFetched o) (s.fetchFlowStart kind) := by
  unfold fetchFlowStart
  refine (ensures_saveSpot h).bind fun t ht => ?_
  have hopen : StaysPlaced o s { t with outerSpots := t.spot :: t.outerSpots, spot := none } :=
    ⟨⟨ht.1.position, ht.1.queue, List.forall_mem_cons.mpr ⟨nofun, ht.1.spots⟩⟩, ht.2⟩
  exact hopen.indicator hskip

/-- A closing bracket brings back the possible key from around it, which was placed when it was put
    aside. -/
theorem ensures_fetchFlowEnd (kind : TokenKind) (h : s.IsPlaced o) (hskip : o.Reaches s.cursor.skip) :
    Ensures o.PlacesFault (HasFetched o) (s.fetchFlowEnd kind) := by
  unfold fetchFlowEnd
  refine (ensures_dropSpot h).bind fun t ht => ?_
  dsimp only
  split
  · -- No bracket is open.
    exact ht.indicator hskip
  · next spot outer houter =>
    have hspots := (List.forall_mem_cons.mp ht.1.spots).2
    rw [houter] at hspots
    have hclose : StaysPlaced o s { t with spot, outerSpots := outer } :=
      ⟨⟨ht.1.position, ht.1.queue, hspots⟩, ht.2⟩
    exact hclose.indicator hskip

/-- A comma ends the possible key. -/
theorem ensures_fetchFlowEntry (h : s.IsPlaced o) (hskip : o.Reaches s.cursor.skip) :
    Ensures o.PlacesFault (HasFetched o) s.fetchFlowEntry := by
  unfold fetchFlowEntry
  exact (ensures_dropSpot h).bind fun t ht => ht.indicator hskip

/-- A dash opens a sequence in its column, unless no entry may stand there. -/
theorem ensures_fetchBlockEntry (h : s.IsPlaced o) (hskip : o.Reaches s.cursor.skip) :
    Ensures o.PlacesFault (HasFetched o) s.fetchBlockEntry := by
  have hopen := h.openBlock s.position.column none .blockSequenceStart h.position
  unfold fetchBlockEntry
  dsimp only
  split
  · exact h.position
  · exact (ensures_dropSpot hopen.1).bind fun t ht => (hopen.trans ht).indicator hskip

/-- A question mark opens a mapping in its column, unless no key may stand there. -/
theorem ensures_fetchKey (h : s.IsPlaced o) (hskip : o.Reaches s.cursor.skip) :
    Ensures o.PlacesFault (HasFetched o) s.fetchKey := by
  have hopen := h.openBlock s.position.column none .blockMappingStart h.position
  unfold fetchKey
  dsimp only
  split
  · exact h.position
  · exact (ensures_dropSpot hopen.1).bind fun t ht => (hopen.trans ht).indicator hskip

/-- A colon makes a key of what was possibly one, or stands for an empty key. -/
theorem ensures_fetchValue (h : s.IsPlaced o) (hskip : o.Reaches s.cursor.skip) :
    Ensures o.PlacesFault (HasFetched o) s.fetchValue := by
  unfold fetchValue
  split
  · next spot hspot =>
    -- The tokens of the key are put where the possible key was found.
    have hkey : o.Places spot.position := (List.forall_mem_cons.mp h.spots).1 spot hspot
    have hopen := (h.insertAt spot.token .key hkey).openBlock spot.position.column (some spot.token)
      .blockMappingStart hkey
    have hdrop : StaysPlaced o s { (s.insertAt spot.token .key spot.position).openBlock
        spot.position.column (some spot.token) .blockMappingStart spot.position with spot := none } :=
      ⟨⟨hopen.1.position, hopen.1.queue,
        List.forall_mem_cons.mpr ⟨nofun, (List.forall_mem_cons.mp hopen.1.spots).2⟩⟩, hopen.2⟩
    exact hdrop.indicator hskip
  · split
    · exact h.position
    · exact (h.openBlock s.position.column none .blockMappingStart h.position).indicator hskip

/-- An anchor or an alias may start a key. -/
theorem ensures_fetchAnchor (activity : Activity) (kind : List Char → TokenKind) (h : s.IsPlaced o)
    (hskip : o.Reaches s.cursor.skip) :
    Ensures o.PlacesFault (HasFetched o) (s.fetchAnchor activity kind) := by
  unfold fetchAnchor
  refine (ensures_saveSpot h).bind fun t ht => ?_
  rw [← ht.2] at hskip
  exact (ensures_takeAnchor activity hskip).bind fun r hr => ht.1.found (kind r.1) hr.places hr

/-- So may a tag. -/
theorem ensures_fetchTag (h : s.IsPlaced o) (hc : o.Reaches s.cursor)
    (hmark : startsWith '!' s.cursor.rest = true) :
    Ensures o.PlacesFault (HasFetched o) s.fetchTag := by
  unfold fetchTag
  refine (ensures_saveSpot h).bind fun t ht => ?_
  rw [← ht.2] at hc hmark
  refine (ensures_takeTag t.inFlow hc hmark).bind fun r hr => ?_
  exact ht.1.found (.tag r.1 r.2.1) hr.places hr

/-- A block scalar is no key. -/
theorem ensures_fetchBlockScalar (literal : Bool) (h : s.IsPlaced o) (hskip : o.Reaches s.cursor.skip) :
    Ensures o.PlacesFault (HasFetched o) (s.fetchBlockScalar literal) := by
  unfold fetchBlockScalar
  refine (ensures_dropSpot h).bind fun t ht => ?_
  rw [← ht.2] at hskip
  exact (ensures_takeBlock literal t.indent hskip).bind fun r hr => ht.1.scalar hr

/-- A quoted scalar may be a key. -/
theorem ensures_fetchQuoted (single : Bool) (h : s.IsPlaced o) (hskip : o.Reaches s.cursor.skip) :
    Ensures o.PlacesFault (HasFetched o) (s.fetchQuoted single) := by
  unfold fetchQuoted
  refine (ensures_saveSpot h).bind fun t ht => ?_
  rw [← ht.2] at hskip
  exact (ensures_takeQuoted single hskip).bind fun r hr => ht.1.scalar hr

/-- So may a plain scalar, which has no indicator to move over. -/
theorem ensures_fetchPlain (h : s.IsPlaced o) (hc : o.Reaches s.cursor) :
    Ensures o.PlacesFault (HasFetched o) s.fetchPlain := by
  unfold fetchPlain
  refine (ensures_saveSpot h).bind fun t ht => ?_
  rw [← ht.2] at hc
  exact (ensures_takePlain t.inFlow (t.indent + 1) hc).bind fun r hr => ht.1.scalar hr

/-- The test for a document indicator gives the text behind its three characters. -/
theorem exists_of_startsWithTriple {x : Char} {cs : List Char} (h : startsWithTriple x cs = true) :
    ∃ ds, cs = [x, x, x] ++ ds := by
  unfold startsWithTriple at h
  split at h
  · next rest =>
    simp only [Bool.and_eq_true, beq_iff_eq] at h
    obtain ⟨⟨⟨rfl, rfl⟩, rfl⟩, -⟩ := h
    exact ⟨rest, rfl⟩
  · cases h

/-- Finding a token at a cursor in front of all blanks and comments. -/
theorem ensures_fetch (h : s.IsPlaced o) (hc : o.Reaches s.cursor) :
    Ensures o.PlacesFault (HasFetched o) s.fetch := by
  unfold fetch
  refine (ensures_dropStale (h.skipToToken hc)).bind fun t ht => ?_
  have hclose := ht.1.1.closeBlocks t.position.column
  have hcursor : o.Reaches (t.closeBlocks t.position.column).cursor := by
    rw [hclose.2, ht.1.2]
    exact reaches_skipToToken hc
  replace hclose := hclose.1
  dsimp only
  -- All that is used of the scanner from here on is where it stands and what it knows.
  generalize t.closeBlocks t.position.column = u at hclose hcursor ⊢
  split
  · next hrest => exact ensures_fetchStreamEnd hclose hcursor hrest
  · next d ds hrest =>
    have hskip : isBreak d = false → o.Reaches u.cursor.skip := hcursor.skip hrest
    have hskip₃ : ∀ x, isBreak x = false → startsWithTriple x (d :: ds) = true →
        o.Reaches (u.cursor.skipMany 3) := by
      intro x hx htriple
      obtain ⟨es, hes⟩ := exists_of_startsWithTriple htriple
      exact hcursor.skipMany (hrest.trans hes) rfl (by simpa using hx)
    -- The indicators are tried in turn; none of them is a line break.
    refine .ite (fun hd => ensures_fetchDirective hclose (hskip (hd.2 ▸ rfl))) ?_
    refine .ite (fun hd => ensures_fetchDocumentIndicator _ hclose (hskip₃ '-' rfl hd.2)) ?_
    refine .ite (fun hd => ensures_fetchDocumentIndicator _ hclose (hskip₃ '.' rfl hd.2)) ?_
    refine .ite (fun hd => ensures_fetchFlowStart _ hclose (hskip (hd ▸ rfl))) ?_
    refine .ite (fun hd => ensures_fetchFlowStart _ hclose (hskip (hd ▸ rfl))) ?_
    refine .ite (fun hd => ensures_fetchFlowEnd _ hclose (hskip (hd ▸ rfl))) ?_
    refine .ite (fun hd => ensures_fetchFlowEnd _ hclose (hskip (hd ▸ rfl))) ?_
    refine .ite (fun hd => ensures_fetchFlowEntry hclose (hskip (hd ▸ rfl))) ?_
    refine .ite (fun hd => ensures_fetchBlockEntry hclose (hskip (hd.1 ▸ rfl))) ?_
    refine .ite (fun hd => ensures_fetchKey hclose (hskip (hd.1 ▸ rfl))) ?_
    refine .ite (fun hd => ensures_fetchValue hclose (hskip (hd.1 ▸ rfl))) ?_
    refine .ite (fun hd => ensures_fetchAnchor _ _ hclose (hskip (hd ▸ rfl))) ?_
    refine .ite (fun hd => ensures_fetchAnchor _ _ hclose (hskip (hd ▸ rfl))) ?_
    refine .ite (fun hd => ensures_fetchTag hclose hcursor (by rw [hrest, hd]; rfl)) ?_
    refine .ite (fun hd => ensures_fetchBlockScalar _ hclose (hskip (hd.1 ▸ rfl))) ?_
    refine .ite (fun hd => ensures_fetchBlockScalar _ hclose (hskip (hd.1 ▸ rfl))) ?_
    refine .ite (fun hd => ensures_fetchQuoted _ hclose (hskip (hd ▸ rfl))) ?_
    refine .ite (fun hd => ensures_fetchQuoted _ hclose (hskip (hd ▸ rfl))) ?_
    exact .ite (fun _ => ensures_fetchPlain hclose hcursor) hclose.position

/-! ### Giving out tokens -/

/-- Run lemma of `release`, which gives out the tokens in front of the first possible key. -/
theorem IsPlaced.release_go {queue : List Token} (h : s.IsPlaced o) (hqueue : ∀ t ∈ queue, t.IsPlaced o) :
    (∀ t ∈ (release.go queue s).1, t.IsPlaced o) ∧ StaysPlaced o s (release.go queue s).2
      ∧ (release.go queue s).2.ended = s.ended := by
  fun_induction release.go queue s with
  | case1 s => exact ⟨nofun, ⟨⟨h.position, nofun, h.spots⟩, rfl⟩, rfl⟩
  -- A key may still have to be put in front of the token, so that the queue stays.
  | case2 t ts s hkey => exact ⟨nofun, ⟨⟨h.position, hqueue, h.spots⟩, rfl⟩, rfl⟩
  | case3 t ts s hkey given s' hgo ih =>
    obtain ⟨ht, hts⟩ := List.forall_mem_cons.mp hqueue
    have hrest := ih ⟨h.position, h.queue, h.spots⟩ hts
    rw [hgo] at hrest
    exact ⟨List.forall_mem_cons.mpr ⟨ht, hrest.1⟩, hrest.2⟩

/-- The same for the whole queue: what is given out and what stays. -/
theorem IsPlaced.of_release {given : List Token} (h : s.IsPlaced o) (hrelease : s.release = (given, t)) :
    (∀ t ∈ given, t.IsPlaced o) ∧ StaysPlaced o s t ∧ t.ended = s.ended := by
  have hgo := h.release_go h.queue
  rw [show release.go s.queue s = (given, t) from hrelease] at hgo
  exact hgo

/-- What the scanner gives out: tokens at places, and a fault at one. -/
def GivesPlaces (o : Cursor) (r : List Token × Option Fault) : Prop :=
  (∀ t ∈ r.1, t.IsPlaced o) ∧ ∀ f ∈ r.2, o.PlacesFault f

/-- A fault at once, with no token in front of it. -/
theorem givesPlaces_fault {f : Fault} (h : o.PlacesFault f) : GivesPlaces o ([], some f) :=
  ⟨nofun, by simpa using h⟩

/-- Where the text cannot be read on, its own fault takes the place of that of the scanner. -/
theorem placesFault_faultOf {unreadable : Option Fault} {f : Fault}
    (hun : ∀ f ∈ unreadable, o.PlacesFault f) (hf : o.PlacesFault f) :
    o.PlacesFault (faultOf unreadable s f) := by
  unfold faultOf
  split
  · cases unreadable with
    | none => exact hf
    | some g => exact hun g rfl
  · exact hf

/-- Run lemma of the scanner: it finds a token, looks through the possible keys and gives out what it
    can, until the stream ends or there is a fault. -/
theorem givesPlaces_run {unreadable : Option Fault} {fuel : Nat}
    (hun : ∀ f ∈ unreadable, o.PlacesFault f) (h : s.IsPlaced o) (hc : o.Reaches s.cursor) :
    GivesPlaces o (run unreadable fuel s) := by
  have hshortage : ∀ {p : Fault → Bool} {f : Fault}, unreadable.filter p = some f → o.PlacesFault f :=
    fun hf => hun _ (Option.filter_eq_some_iff.mp hf).1
  -- What is known once a token has been found and the possible keys have been looked through.
  have hnext : ∀ {s t u v : Scanner} {given : List Token}, s.IsPlaced o → o.Reaches s.cursor →
      s.fetch = .ok t → t.dropStale = .ok u → u.release = (given, v) →
      (∀ t ∈ given, t.IsPlaced o) ∧ HasFetched o v := by
    intro s t u v given h hc hfetch hdrop hrelease
    have ht : HasFetched o t := (ensures_fetch h hc).of_ok hfetch
    obtain ⟨hu, huEnded⟩ := (ensures_dropStale ht.1).of_ok hdrop
    obtain ⟨hgiven, hv, hvEnded⟩ := hu.1.of_release hrelease
    refine ⟨hgiven, hv.1, fun hended => ?_⟩
    rw [hv.2, hu.2]
    exact ht.2 (by rw [← huEnded, ← hvEnded, hended])
  fun_induction run unreadable fuel s with
  | case1 => exact ⟨by simp, by simp⟩
  | case2 fuel s shortage f hf => exact givesPlaces_fault (hshortage hf)
  | case3 fuel s shortage f hfetch =>
    exact givesPlaces_fault (placesFault_faultOf hun ((ensures_fetch h hc).of_error hfetch))
  | case4 fuel s shortage t hfetch _ f hf => exact givesPlaces_fault (hshortage hf)
  -- The token was found, and a key that had to be there has become too old.
  | case5 fuel s shortage t hfetch _ f hdrop =>
    have ht : HasFetched o t := (ensures_fetch h hc).of_ok hfetch
    exact givesPlaces_fault ((ensures_dropStale ht.1).of_error hdrop)
  | case6 fuel s shortage t hfetch _ u hdrop _ given v hrelease hended =>
    exact ⟨(hnext h hc hfetch hdrop hrelease).1, by simp⟩
  | case7 fuel s shortage t hfetch _ u hdrop _ given v hrelease hended more fault hrun ih =>
    obtain ⟨hgiven, hv⟩ := hnext h hc hfetch hdrop hrelease
    have hmore := ih hv.1 (hv.2 (by simpa using hended))
    rw [hrun] at hmore
    exact ⟨List.forall_mem_append.mpr ⟨hgiven, hmore.1⟩, hmore.2⟩

end Scanner

/-- A control character is no place of the text: its fault stands at the beginning. -/
theorem position_of_mem_readableText {text : List Char} {f : Fault} (hf : f ∈ (readableText text).2) :
    f.position = .origin := by
  unfold readableText at hf
  dsimp only at hf
  split at hf
  · cases hf
  · cases hf
    rfl

/-- The tokens of a text and the fault that ends them are at places of the text that can be read. -/
theorem givesPlaces_tokens (text : List Char) :
    Scanner.GivesPlaces ⟨(readableText text).1, .origin⟩ (tokens text) := by
  have horigin : Cursor.Reaches ⟨(readableText text).1, .origin⟩ ⟨(readableText text).1, .origin⟩ := .refl
  refine Scanner.givesPlaces_run (fun f hf => ?_) ⟨horigin.places, nofun, by simp⟩ horigin
  show Places _ f.position
  rw [position_of_mem_readableText hf]
  exact horigin.places

end ChartTrace.Yaml
