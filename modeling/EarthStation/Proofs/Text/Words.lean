import EarthStation.Proofs.Text.Layout

/-!
# Words — texts as words with white space between them

* `Text.IsWord`, `Text.FirstWord`: words, and the first one of a text with what follows it.
* `Text.words_eq_cons_iff`: the words of a text are its first word and those of what follows it.
-/

namespace EarthStation.Text

variable {text w rest : List Char} {ws : List (List Char)}

/-- Holds of words: they are not empty, and there is no white space in them. -/
structure IsWord (w : List Char) : Prop where
  written : w ≠ []
  dense : ∀ c ∈ w, isBlank c = false

/-- Holds of what can follow a word: nothing, or white space and anything behind it. -/
def FollowsWord (rest : List Char) : Prop := ∀ c ∈ rest.head?, isBlank c = true

/-- The first word of a text, and what follows it. -/
inductive FirstWord : (text w rest : List Char) → Prop
  | intro {lead w rest : List Char} (hlead : Blank lead) (hword : IsWord w) (hrest : FollowsWord rest) :
    FirstWord (lead ++ w ++ rest) w rest

/-- A text is blank, or it has a first word. -/
theorem blank_or_firstWord (text : List Char) : Blank text ∨ ∃ w rest, FirstWord text w rest := by
  have htext : text.takeWhile isBlank ++ text.dropWhile isBlank = text := List.takeWhile_append_dropWhile
  have hlead : Blank (text.takeWhile isBlank) := fun _ hc => List.mem_takeWhile_imp hc
  cases hbody : text.dropWhile isBlank with
  | nil =>
    rw [hbody, List.append_nil] at htext
    exact .inl (htext ▸ hlead)
  | cons c cs =>
    have hc : isBlank c = false := by
      have hhead := List.head_dropWhile_not isBlank (ne_of_eq_of_ne hbody (List.cons_ne_nil c cs))
      simpa [hbody] using hhead
    have hword : IsWord (c :: cs.takeWhile fun d => !isBlank d) := by
      refine ⟨List.cons_ne_nil c _, List.forall_mem_cons.mpr ⟨hc, fun d hd => ?_⟩⟩
      simpa using List.mem_takeWhile_imp hd
    have hrest : FollowsWord (cs.dropWhile fun d => !isBlank d) := by
      intro d hd
      have hhead := List.head?_dropWhile_not (fun d => !isBlank d) cs
      rw [Option.mem_def.mp hd] at hhead
      simpa using hhead
    have hfirst := FirstWord.intro hlead hword hrest
    rw [List.append_assoc, List.cons_append, List.takeWhile_append_dropWhile, ← hbody, htext] at hfirst
    exact .inr ⟨_, _, hfirst⟩

theorem words_append_of_blank {lead : List Char} (h : Blank lead) (text : List Char) :
    words (lead ++ text) = words text := by
  induction lead with
  | nil => rfl
  | cons c lead ih =>
    obtain ⟨hc, hlead⟩ := List.forall_mem_cons.mp h
    rw [← ih hlead]
    simp [words, wordsFrom, hc]

theorem words_of_blank (h : Blank text) : words text = [] := by
  rw [← List.append_nil text, words_append_of_blank h]
  rfl

/-- A word that has begun goes on to its end. -/
theorem wordsFrom_append {run : List Char} (hw : ∀ c ∈ w, isBlank c = false) :
    wordsFrom run (w ++ rest) = wordsFrom (w.reverse ++ run) rest := by
  induction w generalizing run with
  | nil => rfl
  | cons c w ih =>
    obtain ⟨hc, hw⟩ := List.forall_mem_cons.mp hw
    rw [List.cons_append, wordsFrom, hc, if_neg Bool.false_ne_true, ih hw]
    simp

theorem wordsFrom_of_followsWord {run : List Char} (hrun : run ≠ []) (hrest : FollowsWord rest) :
    wordsFrom run rest = run.reverse :: words rest := by
  cases rest with
  | nil => simp [wordsFrom, words, hrun]
  | cons c rest =>
    have hc : isBlank c = true := hrest c rfl
    simp [wordsFrom, words, hrun, hc]

theorem words_of_firstWord (h : FirstWord text w rest) : words text = w :: words rest := by
  cases h with
  | intro hlead hword hrest =>
    rw [List.append_assoc, words_append_of_blank hlead, words, wordsFrom_append hword.dense,
      wordsFrom_of_followsWord (by simpa using hword.written) hrest, List.append_nil,
      List.reverse_reverse]

/-- **The words of a text** are its first word and those of what follows it. -/
theorem words_eq_cons_iff : words text = w :: ws ↔ ∃ rest, FirstWord text w rest ∧ words rest = ws := by
  constructor
  · intro h
    rcases blank_or_firstWord text with hblank | ⟨w', rest, hfirst⟩
    · rw [words_of_blank hblank] at h
      cases h
    · rw [words_of_firstWord hfirst] at h
      obtain ⟨rfl, rfl⟩ := List.cons.inj h
      exact ⟨rest, hfirst, rfl⟩
  · rintro ⟨rest, hfirst, rfl⟩
    exact words_of_firstWord hfirst

end EarthStation.Text
