import ChartTrace.Proofs.WireFields

namespace ChartTrace.Wire

/-!
# The messages of the evaluator are read back

One `Layout.RoundTrips` for each layout.  The number in it is how many levels of messages may be
below the message: none below a payload, one in a command, two in a pipeline, and so on up to four in
a conditional.  All are far from the hundred that decoding allows.

Fields are followed in the order in which they are written.  What is read after some of them is the
message with these parts set and all others still empty.
-/

namespace Layout

/-- The three fields of the header, and those after them. -/
theorem Reads.header {l : Layout α} {get : α → Header} {set : α → Header → α}
    {fs : List (Field α)} (hl : l.fields = headerFields get set ++ fs) {depth : Nat} {a c m : α}
    (ha : set a .empty = a) (hget : ∀ h, get (set a h) = h)
    (hset : ∀ h h', set (set a h) h' = set a h')
    (hrest : l.Reads depth (fs.flatMap fun f => f.encode m) (set a (get m)) c) :
    l.Reads depth (l.encode m) a c := by
  -- The header comes first among the fields, so that its numbers lead to its own parts.
  have hhas : ∀ f ∈ headerFields get set, l.Has f := by
    intro f hf
    simp only [headerFields, List.mem_cons, List.not_mem_nil, or_false] at hf
    rcases hf with rfl | rfl | rfl
    all_goals exact ⟨by rw [hl]; rfl, rfl⟩
  have hempty : get a = .empty := by
    rw [← ha, hget]
  rw [encode, hl]
  -- After each field the header holds what has been read so far, over an empty one.
  apply Reads.cons
  · apply Has.reads_enum (hhas _ (by simp [headerFields]))
    rw [hempty]
    exact ha
  rw [hempty]
  apply Reads.cons
  · apply Has.reads_int64 (hhas _ (by simp [headerFields]))
    rw [hset, hget]
    rfl
  rw [hset, hget]
  apply Reads.cons
  · apply Has.reads_int64 (hhas _ (by simp [headerFields]))
    rw [hset, hget]
    rfl
  rw [hset, hget]
  exact hrest

end Layout

open Layout

/-! ### Messages without messages in them -/

/-- The name of a type, and the bytes of a message of that type; these are not read here. -/
theorem roundTrips_payloadLayout : payloadLayout.RoundTrips 0 := by
  intro depth m _
  apply Reads.cons
  · exact Has.reads_string ⟨rfl, rfl⟩ rfl
  apply Reads.cons
  · exact Has.reads_bytes ⟨rfl, rfl⟩ rfl
  exact Reads.nil _ _ m

/-- Nodes that have nothing but the header. -/
theorem roundTrips_plainLayout (name : String) : (plainLayout name).RoundTrips 0 := by
  intro depth m _
  have hfields : (plainLayout name).fields = headerFields id (fun _ h => h) ++ [] :=
    (List.append_nil _).symm
  refine Reads.header hfields rfl (fun _ => rfl) (fun _ _ => rfl) ?_
  exact Reads.nil _ _ m

/-- Nodes with a text, under the name of that text. -/
theorem roundTrips_textualLayout (name field : String) :
    (textualLayout name field).RoundTrips 0 := by
  intro depth m _
  refine Reads.header rfl rfl (fun _ => rfl) (fun _ _ => rfl) ?_
  apply Reads.cons
  · exact Has.reads_string ⟨rfl, rfl⟩ rfl
  exact Reads.nil _ _ m

/-- Nodes with a path, each part of which is an occurrence. -/
theorem roundTrips_pathLayout (name : String) : (pathLayout name).RoundTrips 0 := by
  intro depth m _
  refine Reads.header rfl rfl (fun _ => rfl) (fun _ _ => rfl) ?_
  apply Reads.cons
  · exact Has.reads_strings ⟨rfl, rfl⟩ rfl (fun _ _ => rfl)
  exact Reads.nil _ _ m

/-- Text between actions, as bytes. -/
theorem roundTrips_literalLayout : literalLayout.RoundTrips 0 := by
  intro depth m _
  refine Reads.header rfl rfl (fun _ => rfl) (fun _ _ => rfl) ?_
  apply Reads.cons
  · exact Has.reads_bytes ⟨rfl, rfl⟩ rfl
  exact Reads.nil _ _ m

/-- A truth value, which is not written when it is false. -/
theorem roundTrips_boolLayout : boolLayout.RoundTrips 0 := by
  intro depth m _
  refine Reads.header rfl rfl (fun _ => rfl) (fun _ _ => rfl) ?_
  apply Reads.cons
  · exact Has.reads_bool ⟨rfl, rfl⟩ rfl
  exact Reads.nil _ _ m

/-- A string twice: with its quotes and without. -/
theorem roundTrips_stringLayout : stringLayout.RoundTrips 0 := by
  intro depth m _
  refine Reads.header rfl rfl (fun _ => rfl) (fun _ _ => rfl) ?_
  apply Reads.cons
  · exact Has.reads_string ⟨rfl, rfl⟩ rfl
  apply Reads.cons
  · exact Has.reads_string ⟨rfl, rfl⟩ rfl
  exact Reads.nil _ _ m

/-! ### Messages with payloads in them -/

/-- A payload with a path behind it. -/
theorem roundTrips_chainLayout : chainLayout.RoundTrips 1 := by
  intro depth m hdepth
  refine Reads.header rfl rfl (fun _ => rfl) (fun _ _ => rfl) ?_
  apply Reads.cons
  · exact Has.reads_message roundTrips_payloadLayout hdepth ⟨rfl, rfl⟩ rfl rfl
  apply Reads.cons
  · exact Has.reads_strings ⟨rfl, rfl⟩ rfl (fun _ _ => rfl)
  exact Reads.nil _ _ m

/-- Lists and commands: any number of payloads. -/
theorem roundTrips_parentLayout (name field : String) :
    (parentLayout name field).RoundTrips 1 := by
  intro depth m hdepth
  refine Reads.header rfl rfl (fun _ => rfl) (fun _ _ => rfl) ?_
  apply Reads.cons
  · exact Has.reads_messages roundTrips_payloadLayout hdepth ⟨rfl, rfl⟩ rfl (fun _ _ => rfl)
  exact Reads.nil _ _ m

/-! ### Messages with pipelines and lists in them -/

/-- Variables without messages in them, and commands with one level. -/
theorem roundTrips_pipeLayout : pipeLayout.RoundTrips 2 := by
  intro depth m hdepth
  have hvariable : 0 < depth := by omega
  refine Reads.header rfl rfl (fun _ => rfl) (fun _ _ => rfl) ?_
  apply Reads.cons
  · exact Has.reads_messages (roundTrips_pathLayout _) hvariable ⟨rfl, rfl⟩ rfl (fun _ _ => rfl)
  apply Reads.cons
  · exact Has.reads_messages (roundTrips_parentLayout _ _) hdepth ⟨rfl, rfl⟩ rfl (fun _ _ => rfl)
  exact Reads.nil _ _ m

/-- An action is its pipeline. -/
theorem roundTrips_actionLayout : actionLayout.RoundTrips 3 := by
  intro depth m hdepth
  refine Reads.header rfl rfl (fun _ => rfl) (fun _ _ => rfl) ?_
  apply Reads.cons
  · exact Has.reads_message roundTrips_pipeLayout hdepth ⟨rfl, rfl⟩ rfl rfl
  exact Reads.nil _ _ m

/-- A call of a template: its name, and the pipeline of its argument. -/
theorem roundTrips_templateLayout : templateLayout.RoundTrips 3 := by
  intro depth m hdepth
  refine Reads.header rfl rfl (fun _ => rfl) (fun _ _ => rfl) ?_
  apply Reads.cons
  · exact Has.reads_string ⟨rfl, rfl⟩ rfl
  apply Reads.cons
  · exact Has.reads_message roundTrips_pipeLayout hdepth ⟨rfl, rfl⟩ rfl rfl
  exact Reads.nil _ _ m

/-- A pipeline and two lists, which need one level less than the pipeline. -/
theorem roundTrips_branchLayout : branchLayout.RoundTrips 3 := by
  intro depth m hdepth
  have hlist : 1 < depth := by omega
  apply Reads.cons
  · exact Has.reads_int64 ⟨rfl, rfl⟩ rfl
  apply Reads.cons
  · exact Has.reads_int64 ⟨rfl, rfl⟩ rfl
  apply Reads.cons
  · exact Has.reads_message roundTrips_pipeLayout hdepth ⟨rfl, rfl⟩ rfl rfl
  apply Reads.cons
  · exact Has.reads_message (roundTrips_parentLayout _ _) hlist ⟨rfl, rfl⟩ rfl rfl
  apply Reads.cons
  · exact Has.reads_message (roundTrips_parentLayout _ _) hlist ⟨rfl, rfl⟩ rfl rfl
  exact Reads.nil _ _ m

/-- Conditionals and loops are their branch. -/
theorem roundTrips_branchingLayout (name : String) : (branchingLayout name).RoundTrips 4 := by
  intro depth m hdepth
  refine Reads.header rfl rfl (fun _ => rfl) (fun _ _ => rfl) ?_
  apply Reads.cons
  · exact Has.reads_message roundTrips_branchLayout hdepth ⟨rfl, rfl⟩ rfl rfl
  exact Reads.nil _ _ m

/-! ### The answer -/

/-- A tree is named, and has a list for its root. -/
theorem roundTrips_treeLayout : treeLayout.RoundTrips 2 := by
  intro depth m hdepth
  apply Reads.cons
  · exact Has.reads_string ⟨rfl, rfl⟩ rfl
  apply Reads.cons
  · exact Has.reads_string ⟨rfl, rfl⟩ rfl
  apply Reads.cons
  · exact Has.reads_uint64 ⟨rfl, rfl⟩ rfl
  apply Reads.cons
  · exact Has.reads_message (roundTrips_parentLayout _ _) hdepth ⟨rfl, rfl⟩ rfl rfl
  exact Reads.nil _ _ m

/-- The answer to a request: a text, a tree or none, and an error that is empty if there is none. -/
theorem roundTrips_responseLayout : responseLayout.RoundTrips 3 := by
  intro depth m hdepth
  apply Reads.cons
  · exact Has.reads_string ⟨rfl, rfl⟩ rfl
  apply Reads.cons
  · exact Has.reads_message roundTrips_treeLayout hdepth ⟨rfl, rfl⟩ rfl rfl
  apply Reads.cons
  · exact Has.reads_string ⟨rfl, rfl⟩ rfl
  exact Reads.nil _ _ m

end ChartTrace.Wire
