import MarkupValues.Numeric.Tokens
import MarkupValues.Proofs.Text.Runs

/-!
# The tokens of a list of numbers

No token is empty, and none holds a separator (`isToken_of_mem_tokens`). A text is its tokens in
order, with separators between any two of them and around them, and this is what makes them its
tokens (`isListOf_iff`). So the tokens on the two sides of a separator are all there are
(`tokens_append_separator`).
-/

namespace MarkupValues.Numeric

/-- Whether a text is one that a list of numbers may have for a token: it is not empty and holds no
separator. -/
def IsToken (token : String) : Prop :=
  token ≠ "" ∧ ∀ c ∈ token.toList, isSeparator c = false

/-- A token has a first character. -/
theorem IsToken.toList_ne_nil {token : String} (h : IsToken token) : token.toList ≠ [] :=
  fun hnil => h.1 (String.toList_inj.1 hnil)

/-- The runs between separators that are not empty are tokens. -/
theorem isToken_of_mem_tokens {s token : String} (h : token ∈ tokens s) : IsToken token := by
  obtain ⟨run, hrun, rfl⟩ := List.mem_map.1 h
  obtain ⟨hpart, hne⟩ := List.mem_filter.1 hrun
  refine ⟨fun h => ?_, fun c hc => ?_⟩
  · rw [← String.toList_inj, String.toList_ofList] at h
    rw [h] at hne
    cases hne
  · rw [String.toList_ofList] at hc
    exact Text.eq_false_of_mem_splitOnP hpart c hc

/-! ## Separators -/

/-- Whether every character is a separator. There may be none. -/
def AllSeparators (cs : List Char) : Prop :=
  ∀ c ∈ cs, isSeparator c = true

variable {c : Char} {cs ds : List Char}

/-- The runs on the two sides of a separator are all there are, as no run goes on across it. -/
theorem runs_append_cons (h : isSeparator c = true) :
    runs (cs ++ c :: ds) = runs cs ++ runs ds := by
  rw [runs, List.splitOnP_append_cons _ _ h, List.filter_append]
  rfl

/-- A separator before a text changes nothing. -/
theorem runs_cons_separator (h : isSeparator c = true) : runs (c :: ds) = runs ds := by
  have hsplit : runs ([] ++ c :: ds) = runs [] ++ runs ds := runs_append_cons h
  exact hsplit

/-- Separators before a text change nothing, however many there are. -/
theorem runs_separators_append (h : AllSeparators cs) (ds : List Char) :
    runs (cs ++ ds) = runs ds := by
  induction cs with
  | nil => rfl
  | cons c cs ih =>
    obtain ⟨hc, hcs⟩ := List.forall_mem_cons.1 h
    exact (runs_cons_separator hc).trans (ih hcs)

/-- Characters without a separator are one run, if there are any. -/
theorem runs_of_forall (h : ∀ c ∈ cs, isSeparator c = false) (hne : cs ≠ []) : runs cs = [cs] := by
  rw [runs, List.splitOnP_eq_singleton h]
  simpa using hne

/-- A run ends where a separator follows it, and what follows has its runs after it. -/
theorem runs_run_append (h : ∀ c ∈ cs, isSeparator c = false) (hne : cs ≠ [])
    (hds : Text.Stops (fun c => !isSeparator c) ds) : runs (cs ++ ds) = cs :: runs ds := by
  cases ds with
  | nil =>
    rw [List.append_nil, runs_of_forall h hne]
    rfl
  | cons d ds =>
    have hd : isSeparator d = true := by simpa using Text.stops_cons.1 hds
    rw [runs_append_cons hd, runs_of_forall h hne, runs_cons_separator hd]
    rfl

/-! ## Lists -/

/-- Whether a text is made of tokens in this order: there may be separators before each of them and
at the end, and after each of them the text ends or a separator follows. -/
inductive IsListOf : List Char → List String → Prop where
  | nil {gap : List Char} (hgap : AllSeparators gap) : IsListOf gap []
  | cons {gap : List Char} {token : String} {rest : List Char} {tokens : List String}
      (hgap : AllSeparators gap) (htoken : IsToken token)
      (hstops : Text.Stops (fun c => !isSeparator c) rest) (hrest : IsListOf rest tokens) :
      IsListOf (gap ++ (token.toList ++ rest)) (token :: tokens)

/-- What a text is made of are its runs. -/
theorem IsListOf.map_runs {tokens : List String} (h : IsListOf cs tokens) :
    (runs cs).map String.ofList = tokens := by
  induction h with
  | @nil gap hgap =>
    have hruns : runs (gap ++ []) = [] := runs_separators_append hgap []
    rw [← List.append_nil gap, hruns, List.map_nil]
  | @cons gap token rest tokens hgap htoken hstops hrest ih =>
    rw [runs_separators_append hgap, runs_run_append htoken.2 htoken.toList_ne_nil hstops,
      List.map_cons, String.ofList_toList, ih]

/-- Every text is made of some tokens: those that are cut off its start one after the other. The
induction is on the length of the text, since each step takes separators and a token off it. -/
theorem exists_isListOf (cs : List Char) : ∃ tokens, IsListOf cs tokens := by
  have hgap : AllSeparators (cs.takeWhile isSeparator) := List.all_eq_true.1 List.all_takeWhile
  have hstops := Text.stops_dropWhile isSeparator cs
  have hcs : cs.takeWhile isSeparator ++ cs.dropWhile isSeparator = cs :=
    List.takeWhile_append_dropWhile
  cases hdrop : cs.dropWhile isSeparator with
  | nil =>
    rw [hdrop, List.append_nil] at hcs
    exact ⟨[], hcs ▸ .nil hgap⟩
  | cons c ds =>
    rw [hdrop] at hstops hcs
    have hc : isSeparator c = false := Text.stops_cons.1 hstops
    have hsplit :
        c :: ds.takeWhile (!isSeparator ·) ++ ds.dropWhile (!isSeparator ·) = c :: ds := by
      rw [List.cons_append, List.takeWhile_append_dropWhile]
    have htoken : IsToken (String.ofList (c :: ds.takeWhile (!isSeparator ·))) := by
      refine ⟨fun h => ?_, ?_⟩
      · rw [← String.toList_inj, String.toList_ofList] at h
        cases h
      · rw [String.toList_ofList]
        refine List.forall_mem_cons.2 ⟨hc, fun d hd => ?_⟩
        have hd := List.all_eq_true.1 List.all_takeWhile d hd
        exact (Bool.not_eq_true' _).mp hd
    obtain ⟨tokens, hrest⟩ := exists_isListOf (ds.dropWhile (!isSeparator ·))
    have hlist := IsListOf.cons hgap htoken (Text.stops_dropWhile _ ds) hrest
    rw [String.toList_ofList, hsplit, hcs] at hlist
    exact ⟨_, hlist⟩
termination_by cs.length
decreasing_by
  have hlength := congrArg List.length hcs
  rw [hdrop, List.length_append, List.length_cons] at hlength
  have hdropped := (List.dropWhile_suffix (l := ds) (!isSeparator ·)).length_le
  omega

/-- The tokens of a text are those that it is made of, and no others. -/
theorem isListOf_iff {s : String} {ts : List String} : IsListOf s.toList ts ↔ ts = tokens s := by
  constructor
  · exact fun h => h.map_runs.symm
  · rintro rfl
    obtain ⟨ts, h⟩ := exists_isListOf s.toList
    have htokens : tokens s = ts := h.map_runs
    exact htokens ▸ h

/-- The tokens on the two sides of a separator are all there are. -/
theorem tokens_append_separator {separator : String} (hseparator : separator.toList = [c])
    (hc : isSeparator c = true) (s t : String) :
    tokens (s ++ separator ++ t) = tokens s ++ tokens t := by
  have htext : (s ++ separator ++ t).toList = s.toList ++ c :: t.toList := by simp [hseparator]
  rw [tokens, htext, runs_append_cons hc, List.map_append]
  rfl

/-- A comma between two texts splits their tokens. -/
theorem tokens_append_comma (s t : String) : tokens (s ++ "," ++ t) = tokens s ++ tokens t :=
  tokens_append_separator rfl rfl s t

/-- A blank between two texts splits their tokens. -/
theorem tokens_append_space (s t : String) : tokens (s ++ " " ++ t) = tokens s ++ tokens t :=
  tokens_append_separator rfl rfl s t

/-- A token alone is the one token of its text. -/
theorem tokens_of_isToken {token : String} (h : IsToken token) : tokens token = [token] := by
  have hnone : AllSeparators [] := fun _ h => nomatch h
  have hlist := IsListOf.cons hnone h Text.stops_nil (.nil hnone)
  rw [List.nil_append, List.append_nil] at hlist
  exact (isListOf_iff.1 hlist).symm

end MarkupValues.Numeric
