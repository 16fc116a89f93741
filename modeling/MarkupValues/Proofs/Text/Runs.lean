/-!
# Splitting a text after a run of characters

Two texts that start with runs of the same kind of characters, and go on with something else, agree
in the runs and in what follows (`append_inj_of_stops`). The other lemmas split a text at its last
separator, and tell the characters of the pieces between separators.
-/

namespace MarkupValues.Text

/-- Whether a text does not go on with a character of a kind: it is empty or starts with one of
another kind. -/
def Stops (p : Char → Bool) (cs : List Char) : Prop :=
  ∀ c ∈ cs.head?, p c = false

section
variable {p : Char → Bool} {c : Char} {run rest run' rest' : List Char}

@[simp] theorem stops_nil : Stops p [] := fun _ h => nomatch h

@[simp] theorem stops_cons : Stops p (c :: rest) ↔ p c = false := by simp [Stops]

/-- A run is what its characters make of the text that starts with it, when the text does not go on
with one of them. -/
theorem takeWhile_append_of_stops (h : ∀ c ∈ run, p c = true) (hr : Stops p rest) :
    (run ++ rest).takeWhile p = run := by
  rw [List.takeWhile_append_of_pos h]
  cases rest with
  | nil => simp
  | cons c rest => rw [List.takeWhile_cons_of_neg (by simp [stops_cons.1 hr]), List.append_nil]

/-- Nothing is dropped from a text that does not go on with a character of the kind. -/
theorem dropWhile_of_stops (h : Stops p rest) : rest.dropWhile p = rest := by
  cases rest with
  | nil => rfl
  | cons c rest => rw [List.dropWhile_cons_of_neg (by simp [stops_cons.1 h])]

/-- What is left of a text does not go on with a character of the kind that has been dropped. -/
theorem stops_dropWhile (p : Char → Bool) (cs : List Char) : Stops p (cs.dropWhile p) := by
  have hhead := List.head?_dropWhile_not p cs
  intro c hc
  rw [Option.mem_def.1 hc] at hhead
  exact hhead

/-- What is left after a run is what follows it. -/
theorem dropWhile_append_of_stops (h : ∀ c ∈ run, p c = true) (hr : Stops p rest) :
    (run ++ rest).dropWhile p = rest := by
  rw [List.dropWhile_append_of_pos h, dropWhile_of_stops hr]

/-- A text has one split into a run and what follows it, so that two texts with runs before them are
told apart. -/
theorem append_inj_of_stops (h : ∀ c ∈ run, p c = true) (hr : Stops p rest)
    (h' : ∀ c ∈ run', p c = true) (hr' : Stops p rest') (heq : run ++ rest = run' ++ rest') :
    run = run' ∧ rest = rest' := by
  refine ⟨?_, ?_⟩
  · rw [← takeWhile_append_of_stops h hr, heq, takeWhile_append_of_stops h' hr']
  · rw [← dropWhile_append_of_stops h hr, heq, dropWhile_append_of_stops h' hr']

/-- A text has one split at its last separator. -/
theorem append_cons_inj_of_not_mem {s t s' t' : List Char} (h : c ∉ t) (h' : c ∉ t')
    (heq : s ++ c :: t = s' ++ c :: t') : s = s' ∧ t = t' := by
  have hrun : ∀ {t : List Char}, c ∉ t → ∀ d ∈ t.reverse, (d != c) = true := fun h d hd =>
    bne_iff_ne.2 fun hdc => h (hdc ▸ List.mem_reverse.1 hd)
  have hrev : t.reverse ++ c :: s.reverse = t'.reverse ++ c :: s'.reverse := by
    simpa using congrArg List.reverse heq
  obtain ⟨ht, hs⟩ := append_inj_of_stops (hrun h) (by simp) (hrun h') (by simp) hrev
  exact ⟨List.reverse_inj.1 (List.cons.inj hs).2, List.reverse_inj.1 ht⟩

/-- Every character of a text is a separator or one of those between separators, so that what holds
of all pieces holds of the text but for the separators. -/
theorem forall_mem_of_splitOn (cs : List Char) (h : ∀ part ∈ cs.splitOn c, ∀ d ∈ part, p d = true) :
    ∀ d ∈ cs, p d = true ∨ d = c := by
  induction cs with
  | nil => exact fun _ hd => nomatch hd
  | cons x cs ih =>
    rw [List.splitOn_cons_eq_if_modifyHead] at h
    obtain ⟨part, parts, hp⟩ := List.exists_cons_of_ne_nil (List.splitOn_ne_nil c cs)
    rw [hp] at h ih
    split at h
    · next hx =>
      refine List.forall_mem_cons.2 ⟨.inr (beq_iff_eq.1 hx), ih fun q hq => h q (.tail _ hq)⟩
    · have hhead := h (x :: part) (.head _)
      refine List.forall_mem_cons.2 ⟨.inl (hhead x (.head _)), ih fun q hq => ?_⟩
      rcases List.mem_cons.1 hq with rfl | hq
      · exact fun d hd => hhead d (.tail _ hd)
      · exact h q (.tail _ hq)

/-- No piece between separators holds a separator, by induction on the text. -/
theorem eq_false_of_mem_splitOnP {part : List Char} (h : part ∈ run.splitOnP p) :
    ∀ d ∈ part, p d = false := by
  induction run generalizing part with
  | nil =>
    rw [List.splitOnP_nil, List.mem_singleton] at h
    exact h ▸ fun _ hd => nomatch hd
  | cons x run ih =>
    rw [List.splitOnP_cons_eq_if_modifyHead] at h
    obtain ⟨first, parts, hp⟩ := List.exists_cons_of_ne_nil (List.splitOnP_ne_nil p run)
    rw [hp] at h ih
    split at h
    · rcases List.mem_cons.1 h with rfl | h
      · exact fun _ hd => nomatch hd
      · exact ih h
    · next hx =>
      rcases List.mem_cons.1 h with rfl | h
      · exact List.forall_mem_cons.2 ⟨Bool.eq_false_iff.2 hx, ih (.head _)⟩
      · exact ih (.tail _ h)

end

end MarkupValues.Text
