import BuildLoop.Proofs.Text.Pattern
import BuildLoop.Task.Mentions

/-!
# The first file of a text

The files that a text names before a character that no path has and no word has are named first,
whatever follows. So the first file of a text is known once such a character has come after it:

    f is the first file of s ++ [b], and b, b' stop paths   →   f is the first file of s ++ b' :: t
                                                                                  (head?_mentioned)

The files of a text are what is found in it and names a file (`candidates`), each once, in the order in
which they are found first.
-/

namespace BuildLoop

open Text Pattern

/-- Whether a character ends every path and every word. -/
def isPathStop (b : Char) : Bool := filePattern.avoids b && !isWordChar b

theorem isPathStop_blank : isPathStop ' ' = true := by decide

theorem isPathStop_comma : isPathStop ',' = true := by decide

theorem isPathStop_colon : isPathStop ':' = true := by decide

/-- Keeps a path that is not there yet. -/
def addPath (found : List String) (path : String) : List String :=
  if found.contains path then found else found ++ [path]

theorem prefix_foldl_addPath (found paths : List String) : found <+: paths.foldl addPath found := by
  induction paths generalizing found with
  | nil => exact List.prefix_refl found
  | cons path paths ih =>
    refine List.IsPrefix.trans ?_ (ih (addPath found path))
    unfold addPath
    split
    · exact List.prefix_refl found
    · exact List.prefix_append found [path]

theorem mem_foldl_addPath {found paths : List String} {path : String} :
    path ∈ paths.foldl addPath found ↔ path ∈ found ∨ path ∈ paths := by
  induction paths generalizing found with
  | nil => simp
  | cons p paths ih =>
    have hadd : path ∈ addPath found p ↔ path ∈ found ∨ path = p := by
      unfold addPath
      split
      · next hp =>
        rw [List.contains_iff_mem] at hp
        exact ⟨.inl, fun h => h.elim id fun h => h ▸ hp⟩
      · simp
    rw [List.foldl_cons, ih, hadd, List.mem_cons, or_assoc]

theorem sublist_foldl_addPath (found paths : List String) : (paths.foldl addPath found).Sublist (found ++ paths) := by
  induction paths generalizing found with
  | nil => simp
  | cons path paths ih =>
    refine (ih (addPath found path)).trans ?_
    unfold addPath
    split
    · exact (List.sublist_cons_self path paths).append_left found
    · rw [List.append_assoc, List.singleton_append]

theorem nodup_foldl_addPath {found : List String} (h : found.Nodup) (paths : List String) :
    (paths.foldl addPath found).Nodup := by
  induction paths generalizing found with
  | nil => exact h
  | cons path paths ih =>
    refine ih ?_
    unfold addPath
    split
    · exact h
    · next hnew =>
      rw [List.contains_iff_mem] at hnew
      exact List.nodup_append.2 ⟨h, List.pairwise_singleton _ path, fun a ha b hb hab =>
        hnew (List.mem_singleton.1 hb ▸ hab ▸ ha)⟩

/-- Paths are kept in the order in which they come first. -/
theorem pairwise_foldl_addPath {seen found : List String} (paths : List String)
    (hmem : ∀ path, path ∈ found ↔ path ∈ seen)
    (h : found.Pairwise fun f g => (seen ++ paths).idxOf f < (seen ++ paths).idxOf g) :
    (paths.foldl addPath found).Pairwise fun f g => (seen ++ paths).idxOf f < (seen ++ paths).idxOf g := by
  induction paths generalizing seen found with
  | nil => exact h
  | cons path paths ih =>
    rw [List.append_cons] at h ⊢
    have hadd : ∀ p, p ∈ addPath found path ↔ p ∈ seen ++ [path] := fun p => by
      have hone : p ∈ [path].foldl addPath found ↔ p ∈ found ∨ p ∈ [path] := mem_foldl_addPath
      rw [List.foldl_cons, List.foldl_nil] at hone
      rw [hone, List.mem_append, hmem]
    refine ih hadd ?_
    unfold addPath
    split
    · exact h
    · next hnew =>
      rw [List.contains_iff_mem, hmem] at hnew
      refine List.pairwise_append.2 ⟨h, List.pairwise_singleton _ _, fun f hf g hg => ?_⟩
      obtain rfl := List.mem_singleton.1 hg
      -- what has been kept comes among what has been seen, and the path right after that
      have hseen := (hmem f).1 hf
      rw [List.append_assoc, List.idxOf_append_of_mem hseen, List.idxOf_append_of_notMem hnew,
        List.singleton_append, List.idxOf_cons_self]
      exact Nat.lt_add_right 0 (List.idxOf_lt_length_iff.2 hseen)

/-- What is found in a text and names a file, with repetitions. -/
def candidates (text : String) : List String :=
  ((findAll filePattern text.toList).filter fun m => namesFile m.prev m.text).map fun m => String.ofList m.text

theorem mentioned_eq_foldl (text : String) : mentioned text = (candidates text).foldl addPath [] := by
  unfold mentioned candidates
  rw [List.foldl_map]
  rfl

theorem mem_mentioned {text f : String} : f ∈ mentioned text ↔ f ∈ candidates text := by
  rw [mentioned_eq_foldl, mem_foldl_addPath]
  simp

theorem nodup_mentioned (text : String) : (mentioned text).Nodup := by
  rw [mentioned_eq_foldl]
  exact nodup_foldl_addPath List.nodup_nil _

/-- The files named in a text of characters. -/
def mentionedIn (s : List Char) : List String :=
  ((((findAll filePattern s).map Match.found).filter fun x => namesFile x.1 x.2).map fun x =>
    String.ofList x.2).foldl addPath []

theorem mentioned_eq (text : String) : mentioned text = mentionedIn text.toList := by
  unfold mentionedIn mentioned
  rw [List.filter_map, List.map_map, List.foldl_map]
  rfl

section
variable {b b' : Char} (hb : isPathStop b = true) (hb' : isPathStop b' = true)
include hb hb'

/-- What a text names up to a stop is named first, whichever stop comes and whatever follows. -/
theorem mentionedIn_prefix (s t : List Char) : mentionedIn (s ++ [b]) <+: mentionedIn (s ++ b' :: t) := by
  have hleast : 0 < filePattern.least := by decide
  obtain ⟨havoids, hw⟩ := Bool.and_eq_true_iff.1 hb
  obtain ⟨havoids', hw'⟩ := Bool.and_eq_true_iff.1 hb'
  have hword : isWordChar b = isWordChar b' := Bool.not_inj (hw.trans hw'.symm)
  obtain ⟨rest, hfound⟩ := found_prefix hword havoids havoids' hleast s t
  unfold mentionedIn
  rw [← hfound, List.filter_append, List.map_append, List.foldl_append]
  exact prefix_foldl_addPath _ _

theorem head?_mentioned {s t : List Char} {text path : String} (htext : text.toList = s ++ b' :: t)
    (h : (mentionedIn (s ++ [b])).head? = some path) : (mentioned text).head? = some path := by
  obtain ⟨rest, hrest⟩ := mentionedIn_prefix hb hb' s t
  rw [mentioned_eq, htext, ← hrest, List.head?_append, h]
  rfl

end

end BuildLoop
