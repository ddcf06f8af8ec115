import ChartTrace.Evaluator.Request
import ChartTrace.Proofs.Utf8Codec
import Mathlib.Data.List.Basic

namespace ChartTrace

/-!
# The format of requests

What the evaluator has to do to read a request, and that it reads what was sent:

* `readCount?`, `readString?`, `readFiles?`, `FileMap.ofSorted?`, `Request.read?`: a reader of the format;
* `Request.Fits`, `Request.encode_eq_ok_iff`: the requests that can be written, and their bytes;
* `Request.read?_bytes`: the reader takes exactly the bytes of the request, whatever follows them;
* `FileMap.lookup_ofList`: the last file given of a name counts; `FileMap.ext_lookup` says that nothing else
  matters;
* `Request.encode_format`: so the format can be read, is canonical, and no request is the beginning
  of another one.
-/

/-! ### A reader -/

/-- Reads a number in four bytes, the highest first. -/
def readCount? : Bytes → Option (Nat × Bytes)
  | a :: b :: c :: d :: rest =>
    some (((a.toNat * 256 + b.toNat) * 256 + c.toNat) * 256 + d.toNat, rest)
  | _ => none

/-- Reads a length and a string of as many bytes. -/
def readString? (bs : Bytes) : Option (String × Bytes) := do
  let (n, rest) ← readCount? bs
  if rest.length < n then none
  else (readUtf8? (rest.take n)).map fun s => (s, rest.drop n)

/-- Reads the names and contents of a given number of files. -/
def readFiles? : Nat → Bytes → Option (List (String × String) × Bytes)
  | 0, bs => some ([], bs)
  | n + 1, bs => do
    let (name, rest) ← readString? bs
    let (content, rest) ← readString? rest
    let (files, rest) ← readFiles? n rest
    return ((name, content) :: files, rest)

/-- The map of files that come by increasing name; others make no map. -/
def FileMap.ofSorted? (fs : List (String × String)) : Option FileMap :=
  if h : fs.Pairwise fun f g => f.1 < g.1 then some ⟨fs, h⟩ else none

/-- Reads a request, and gives the bytes after it. -/
def Request.read? (bs : Bytes) : Option (Request × Bytes) := do
  let (path, rest) ← readString? bs
  let (content, rest) ← readString? rest
  let (count, rest) ← readCount? rest
  let (files, rest) ← readFiles? count rest
  return (⟨path, content, ← FileMap.ofSorted? files⟩, rest)

/-! ### The bytes of a request -/

/-- A string behind its length in four bytes. -/
def framed (s : String) : Bytes := bigEndian32 (utf8 s).length ++ utf8 s

/-- A file: its name and its content. -/
def framedFile (f : String × String) : Bytes := framed f.1 ++ framed f.2

/-- The bytes of a request of any size. -/
def Request.bytes (r : Request) : Bytes :=
  framed r.path ++ framed r.content ++ bigEndian32 r.files.toList.length
    ++ r.files.toList.flatMap framedFile

/-- The string is short enough for its length to fit four bytes. -/
def FitsCount (s : String) : Prop := (utf8 s).length < countLimit

instance (s : String) : Decidable (FitsCount s) :=
  inferInstanceAs (Decidable ((utf8 s).length < countLimit))

/-- All that is counted in a request fits four bytes. -/
structure Request.Fits (r : Request) : Prop where
  path : FitsCount r.path
  content : FitsCount r.content
  count : r.files.toList.length < countLimit
  file : ∀ f ∈ r.files, FitsCount f.1 ∧ FitsCount f.2

/-- A string is written, behind its length, exactly when the length fits the count. -/
theorem encodeString_eq_ok_iff {s : String} {bs : Bytes} :
    encodeString s = .ok bs ↔ FitsCount s ∧ bs = framed s := by
  unfold encodeString FitsCount framed
  by_cases h : (utf8 s).length < countLimit
  · simp [h, eq_comm]
  · simp [h]

/-- Files are written one after the other, if each name and each content fits. -/
theorem encodeFiles_eq_ok_iff {fs : List (String × String)} {bs : Bytes} :
    encodeFiles fs = .ok bs
      ↔ (∀ f ∈ fs, FitsCount f.1 ∧ FitsCount f.2) ∧ bs = fs.flatMap framedFile := by
  induction fs generalizing bs with
  | nil => simp [encodeFiles, eq_comm]
  | cons f fs ih =>
    simp only [encodeFiles, except_bind_eq_ok_iff, encodeString_eq_ok_iff, ih, pure, Except.pure,
      Except.ok.injEq, List.forall_mem_cons, List.flatMap_cons, framedFile]
    constructor
    · rintro ⟨_, ⟨hname, rfl⟩, _, ⟨hcontent, rfl⟩, _, ⟨hrest, rfl⟩, rfl⟩
      exact ⟨⟨⟨hname, hcontent⟩, hrest⟩, rfl⟩
    · rintro ⟨⟨⟨hname, hcontent⟩, hrest⟩, rfl⟩
      exact ⟨_, ⟨hname, rfl⟩, _, ⟨hcontent, rfl⟩, _, ⟨hrest, rfl⟩, rfl⟩

/-- **Writing** succeeds for exactly the requests that fit. -/
theorem Request.encode_eq_ok_iff {r : Request} {bs : Bytes} :
    r.encode = .ok bs ↔ r.Fits ∧ bs = r.bytes := by
  unfold Request.encode
  simp only [except_bind_eq_ok_iff, encodeString_eq_ok_iff]
  by_cases hcount : countLimit ≤ r.files.toList.length
  · -- Too many files: nothing is written, and the request does not fit.
    simp only [hcount, if_true]
    constructor
    · rintro ⟨_, -, _, -, h⟩
      cases h
    · rintro ⟨hfits, -⟩
      exact absurd hfits.count (by omega)
  · simp only [hcount, if_false, except_bind_eq_ok_iff, encodeFiles_eq_ok_iff, pure, Except.pure,
      Except.ok.injEq]
    constructor
    · rintro ⟨_, ⟨hpath, rfl⟩, _, ⟨hcontent, rfl⟩, _, ⟨hfiles, rfl⟩, rfl⟩
      exact ⟨⟨hpath, hcontent, by omega, hfiles⟩, rfl⟩
    · rintro ⟨hfits, rfl⟩
      exact ⟨_, ⟨hfits.path, rfl⟩, _, ⟨hfits.content, rfl⟩, _, ⟨hfits.file, rfl⟩, rfl⟩

/-! ### Reading what was written -/

/-- A count that fits is read back from its four bytes. -/
theorem readCount?_bigEndian32 {n : Nat} (hn : n < countLimit) (rest : Bytes) :
    readCount? (bigEndian32 n ++ rest) = some (n, rest) := by
  rw [countLimit] at hn
  simp only [bigEndian32, List.cons_append, List.nil_append, readCount?, UInt8.toNat_ofNat']
  congr 2
  omega

theorem length_bigEndian32 (n : Nat) : (bigEndian32 n).length = 4 := rfl

/-- A framed string is read back, and what follows it is left. -/
theorem readString?_framed {s : String} (hs : FitsCount s) (rest : Bytes) :
    readString? (framed s ++ rest) = some (s, rest) := by
  have hlength : ¬ (utf8 s ++ rest).length < (utf8 s).length := by
    rw [List.length_append]
    omega
  rw [readString?, framed, List.append_assoc, readCount?_bigEndian32 hs]
  simp only [Option.bind_eq_bind, Option.bind_some, hlength, if_false, List.take_left,
    List.drop_left, readUtf8?_utf8, Option.map_some]

/-- So are as many framed files as were written. -/
theorem readFiles?_flatMap {fs : List (String × String)}
    (hfs : ∀ f ∈ fs, FitsCount f.1 ∧ FitsCount f.2) (rest : Bytes) :
    readFiles? fs.length (fs.flatMap framedFile ++ rest) = some (fs, rest) := by
  induction fs with
  | nil => rfl
  | cons f fs ih =>
    obtain ⟨⟨hname, hcontent⟩, hrest⟩ := List.forall_mem_cons.mp hfs
    -- The first file is a name and a content; the induction reads the others from what is left.
    rw [List.length_cons, readFiles?, List.flatMap_cons, framedFile, List.append_assoc,
      List.append_assoc, readString?_framed hname]
    simp only [Option.bind_eq_bind, Option.bind_some, readString?_framed hcontent, ih hrest]
    rfl

/-- The files of a map come by increasing name, so they make the map again. -/
theorem FileMap.ofSorted?_toList (m : FileMap) : FileMap.ofSorted? m.toList = some m := dif_pos m.sorted

/-- **Reading** takes exactly the bytes of the request and gives it back. -/
theorem Request.read?_bytes {r : Request} (hfits : r.Fits) (rest : Bytes) :
    Request.read? (r.bytes ++ rest) = some (r, rest) := by
  have hsplit : r.bytes ++ rest = framed r.path ++ (framed r.content
      ++ (bigEndian32 r.files.toList.length ++ (r.files.toList.flatMap framedFile ++ rest))) := by
    simp only [Request.bytes, List.append_assoc]
  rw [Request.read?, hsplit, readString?_framed hfits.path]
  simp only [Option.bind_eq_bind, Option.bind_some, readString?_framed hfits.content,
    readCount?_bigEndian32 hfits.count, readFiles?_flatMap hfits.file, FileMap.ofSorted?_toList]
  rfl

/-- A frame adds four bytes. -/
theorem length_framed (s : String) : (framed s).length = 4 + (utf8 s).length := by
  rw [framed, List.length_append, length_bigEndian32]

/-- A file has two frames. -/
theorem length_framedFile (f : String × String) :
    (framedFile f).length = 8 + (utf8 f.1).length + (utf8 f.2).length := by
  rw [framedFile, List.length_append, length_framed, length_framed]
  omega

/-- So the length of a request is known from its texts: three counts, and two for each file. -/
theorem Request.length_bytes (r : Request) :
    r.bytes.length = 12 + (utf8 r.path).length + (utf8 r.content).length
      + (r.files.toList.map fun f => 8 + (utf8 f.1).length + (utf8 f.2).length).sum := by
  have hfiles : (r.files.toList.flatMap framedFile).length
      = (r.files.toList.map fun f => 8 + (utf8 f.1).length + (utf8 f.2).length).sum := by
    rw [List.length_flatMap]
    simp only [length_framedFile]
  rw [Request.bytes, List.length_append, List.length_append, List.length_append, length_framed,
    length_framed, length_bigEndian32, hfiles]
  omega

/-- A request that is the beginning of another one is that one: reading stops at the same place. -/
theorem Request.eq_of_bytes_isPrefix {r s : Request} (hr : r.Fits) (hs : s.Fits)
    (h : r.bytes <+: s.bytes) : r = s := by
  obtain ⟨rest, hrest⟩ := h
  have hread := Request.read?_bytes hr rest
  have hread' := Request.read?_bytes hs []
  rw [List.append_nil, ← hrest, hread] at hread'
  simpa using congrArg (Option.map Prod.fst) hread'

/-! ### Maps of files -/

namespace FileMap

/-- Look-up in a list of pairs is look-up of a pair. -/
theorem lookup_eq_map_find? (name : String) (fs : List (String × String)) :
    fs.lookup name = (fs.find? fun f => f.1 == name).map Prod.snd := by
  induction fs with
  | nil => rfl
  | cons f fs ih =>
    obtain ⟨key, content⟩ := f
    rw [List.lookup_cons, List.find?_cons]
    by_cases hkey : name = key
    · simp [hkey]
    · rw [beq_false_of_ne hkey, beq_false_of_ne (Ne.symm hkey), ih]

/-- **Last one wins.** -/
theorem lookup_ofList (fs : List (String × String)) (name : String) :
    (ofList fs).lookup name = fs.reverse.lookup name := by
  rw [lookup, ofList, SortedList.find?_ofList, lookup_eq_map_find?]

/-- **Extensionality.** Maps with the same files are equal. -/
theorem ext_lookup {m n : FileMap} (h : ∀ name, m.lookup name = n.lookup name) : m = n := by
  refine SortedList.ext_find? fun name => ?_
  -- A file that is found has the name looked for, so its content tells which one it is.
  have hfile : ∀ (m : FileMap), m.find? name = (m.lookup name).map fun content => (name, content) := by
    intro m
    rw [lookup, Option.map_map]
    cases hm : m.find? name with
    | none => rfl
    | some f =>
      obtain rfl : f.1 = name := (SortedList.of_find?_eq_some hm).2
      rfl
  rw [hfile, hfile, h]

end FileMap

/-- **Format.** Let files be given one after the other for a request whose counted parts fit four
    bytes.  The request is written as its path, its content, the number of its files and the name and
    content of each, all strings behind their length.  Reading takes exactly these bytes, whatever
    follows, and gives the request back; their number is known beforehand, and names come in the
    order of their bytes.  A request whose bytes begin with them is the same request.  The last file
    given of a name counts, and the order in which files are given leaves no trace. -/
theorem Request.encode_format (path content : String) (fs : List (String × String))
    (hfits : Request.Fits ⟨path, content, .ofList fs⟩) :
    ∃ bs, Request.encode ⟨path, content, .ofList fs⟩ = .ok bs
      ∧ bs = framed path ++ framed content ++ bigEndian32 (FileMap.ofList fs).toList.length
        ++ (FileMap.ofList fs).toList.flatMap framedFile
      ∧ (∀ rest, Request.read? (bs ++ rest) = some (⟨path, content, .ofList fs⟩, rest))
      ∧ bs.length = 12 + (utf8 path).length + (utf8 content).length
        + ((FileMap.ofList fs).toList.map fun f => 8 + (utf8 f.1).length + (utf8 f.2).length).sum
      ∧ (FileMap.ofList fs).toList.Pairwise (fun f g => utf8 f.1 < utf8 g.1)
      ∧ (∀ s cs, Request.encode s = .ok cs → bs <+: cs → s = ⟨path, content, .ofList fs⟩ ∧ cs = bs)
      ∧ (∀ name, (FileMap.ofList fs).lookup name = fs.reverse.lookup name)
      ∧ ∀ gs : List (String × String),
        (∀ name, gs.reverse.lookup name = fs.reverse.lookup name) →
        Request.encode ⟨path, content, .ofList gs⟩ = .ok bs := by
  have hencode := Request.encode_eq_ok_iff.mpr ⟨hfits, rfl⟩
  refine ⟨_, hencode, rfl, Request.read?_bytes hfits, Request.length_bytes _, ?_, ?_,
    FileMap.lookup_ofList fs, ?_⟩
  · exact (FileMap.ofList fs).sorted.imp utf8_lt_utf8
  · -- No request begins another one, since the first would be read from it.
    intro s cs hs hbegins
    obtain ⟨hfits', rfl⟩ := Request.encode_eq_ok_iff.mp hs
    have heq := Request.eq_of_bytes_isPrefix hfits hfits' hbegins
    exact ⟨heq.symm, by rw [heq]⟩
  · -- Lists with the same last contents make the same map.
    intro gs hgs
    have hmap : FileMap.ofList gs = FileMap.ofList fs := by
      apply FileMap.ext_lookup
      intro name
      rw [FileMap.lookup_ofList, FileMap.lookup_ofList, hgs name]
    rw [hmap, hencode]

/-- The same files in two orders, one of them given twice. -/
theorem Request.encode_format_twoOrders :
    Request.Fits ⟨"é", "", .ofList [("b", "1"), ("a", "x"), ("b", "")]⟩
    ∧ ∃ bs, Request.encode ⟨"é", "", .ofList [("b", "1"), ("a", "x"), ("b", "")]⟩ = .ok bs
      ∧ bs = [0, 0, 0, 2, 0xC3, 0xA9, 0, 0, 0, 0, 0, 0, 0, 2,
        0, 0, 0, 1, 97, 0, 0, 0, 1, 120, 0, 0, 0, 1, 98, 0, 0, 0, 0]
      ∧ Request.read? (bs ++ [7]) = some (⟨"é", "", ⟨[("a", "x"), ("b", "")], by decide⟩⟩, [7])
      ∧ bs.length = 33
      ∧ Request.encode ⟨"é", "", .ofList [("b", ""), ("a", "x")]⟩ = .ok bs := by
  have hfits : Request.Fits ⟨"é", "", .ofList [("b", "1"), ("a", "x"), ("b", "")]⟩ :=
    ⟨by decide, by decide, by decide, by decide⟩
  obtain ⟨bs, hencode, hbytes, hread, hlength, -, -, -, hgs⟩ :=
    Request.encode_format "é" "" [("b", "1"), ("a", "x"), ("b", "")] hfits
  refine ⟨hfits, bs, hencode, hbytes, hread [7], hlength, hgs [("b", ""), ("a", "x")] ?_⟩
  intro name
  by_cases ha : name = "a"
  · subst ha; rfl
  · by_cases hb : name = "b"
    · subst hb; rfl
    · simp [FileMap.lookup_eq_map_find?, Ne.symm ha, Ne.symm hb]

end ChartTrace
