import Mathlib.Data.List.Infix
import MarkupValues.Proofs.Numeric.Tokens

/-!
# Layouts of lists of numbers

A layout is tokens with separators around them, of which there may be none at the two ends only
(`Layout`). The tokens of a text are those that it is a layout of, so splitting is the inverse of
laying out (`tokens_eq_iff_exists_layout`). They are the longest runs without separators in the
order of the text: each of them has the tokens before it on its left and those after it on its right
(`tokens_eq_append_cons_iff`), and nothing but separators is lost (`flatMap_toList_tokens`).
-/

namespace MarkupValues.Numeric

open Text (Stops)

variable {c : Char} {cs ds : List Char} {s token : String} {ts front back : List String}

/-! ## Longest runs -/

/-- Whether a text is two others with a token between them, which cannot be made longer on either
side: what is before it is empty or ends with a separator, and what is after it is empty or starts
with one. -/
structure IsRun (s before token after : String) : Prop where
  text : before ++ token ++ after = s
  isToken : IsToken token
  starts : ∀ c ∈ before.toList.getLast?, isSeparator c = true
  ends : ∀ c ∈ after.toList.head?, isSeparator c = true

/-- A run ends before a text that is empty or starts with a separator. -/
theorem stops_iff : Stops (fun c => !isSeparator c) cs ↔ ∀ c ∈ cs.head?, isSeparator c = true := by
  simp [Stops]

/-- A token does not start with a separator, and it is not empty. -/
theorem IsToken.not_stops (h : IsToken token) (cs : List Char) :
    ¬Stops (fun c => !isSeparator c) (token.toList ++ cs) := by
  cases htoken : token.toList with
  | nil => exact absurd htoken h.toList_ne_nil
  | cons c rest =>
    have hc : isSeparator c = false := h.2 c (htoken ▸ .head _)
    simp [hc]

/-- The runs of a text that ends with a separator and those of what follows it are all there are: no
run goes on from one to the other. -/
theorem runs_append_of_getLast? (h : ∀ c ∈ cs.getLast?, isSeparator c = true) :
    runs (cs ++ ds) = runs cs ++ runs ds := by
  rcases List.eq_nil_or_concat cs with rfl | ⟨cs, c, rfl⟩
  · rfl
  · have hc : isSeparator c = true := h c (by simp)
    have hcs : runs (cs ++ [c]) = runs cs ++ runs [] := runs_append_cons hc
    rw [List.concat_eq_append, List.append_assoc, List.singleton_append, runs_append_cons hc, hcs]
    simp [runs]

/-- A longest run has its place among the tokens: those before it come from the text on its left,
and those after it from the text on its right. -/
theorem IsRun.tokens_eq {before after : String} (h : IsRun s before token after) :
    tokens s = tokens before ++ token :: tokens after := by
  obtain ⟨rfl, htoken, hstarts, hends⟩ := h
  have hruns : runs (before ++ token ++ after).toList =
      runs before.toList ++ token.toList :: runs after.toList := by
    rw [String.toList_append, String.toList_append, List.append_assoc,
      runs_append_of_getLast? hstarts,
      runs_run_append htoken.2 htoken.toList_ne_nil (stops_iff.2 hends)]
  rw [tokens, hruns, List.map_append, List.map_cons, String.ofList_toList]
  rfl

/-- Each of the tokens that a text is made of is a longest run, with the tokens before it on its
left and those after it on its right. -/
theorem IsListOf.exists_append (h : IsListOf cs (front ++ token :: back)) :
    ∃ before after, cs = before ++ (token.toList ++ after) ∧ IsToken token ∧
      (∀ c ∈ before.getLast?, isSeparator c = true) ∧ Stops (fun c => !isSeparator c) after ∧
      IsListOf before front ∧ IsListOf after back := by
  induction front generalizing cs with
  | nil =>
    cases h with
    | @cons gap _ rest _ hgap htoken hstops hrest =>
      refine ⟨gap, rest, rfl, htoken, ?_, hstops, .nil hgap, hrest⟩
      exact fun c hc => hgap c (List.mem_of_getLast? hc)
  | cons first front ih =>
    cases h with
    | @cons gap _ rest _ hgap hfirst hstops hrest =>
      obtain ⟨before, after, rfl, htoken, hstarts, hends, hfront, hback⟩ := ih hrest
      -- Without anything between them the first token would go on with this one.
      have hbefore : before ≠ [] := by
        rintro rfl
        exact htoken.not_stops after hstops
      have hstops' : Stops (fun c => !isSeparator c) before := by
        cases before with
        | nil => exact Text.stops_nil
        | cons d before => exact Text.stops_cons.2 (Text.stops_cons.1 hstops)
      refine ⟨gap ++ (first.toList ++ before), after, by simp, htoken, ?_, hends,
        .cons hgap hfirst hstops' hfront, hback⟩
      rw [← List.append_assoc, List.getLast?_append_of_ne_nil _ hbefore]
      exact hstarts

/-- A token stands between others exactly when it is a longest run between texts of which they are
the tokens. So each token has a place in the text that is its own. -/
theorem tokens_eq_append_cons_iff : tokens s = front ++ token :: back ↔
    ∃ before after, IsRun s before token after ∧ tokens before = front ∧ tokens after = back := by
  constructor
  · intro h
    obtain ⟨before, after, hs, htoken, hstarts, hends, hfront, hback⟩ :=
      (isListOf_iff.2 h.symm).exists_append
    have htext : String.ofList before ++ token ++ String.ofList after = s := by
      rw [← String.toList_inj, hs]
      simp
    rw [← String.toList_ofList (l := before)] at hstarts hfront
    rw [← String.toList_ofList (l := after)] at hends hback
    exact ⟨_, _, ⟨htext, htoken, hstarts, stops_iff.1 hends⟩, (isListOf_iff.1 hfront).symm,
      (isListOf_iff.1 hback).symm⟩
  · rintro ⟨before, after, hrun, rfl, rfl⟩
    exact hrun.tokens_eq

/-! ## Layouts -/

/-- Tokens as they are laid out in a text: separators before the first of them, and each of them
with the separators after it. Between two tokens there is one separator at least. -/
structure Layout where
  start : String
  parts : List (String × String)
  allSeparators_start : AllSeparators start.toList
  isToken : ∀ part ∈ parts, IsToken part.1
  allSeparators : ∀ part ∈ parts, AllSeparators part.2.toList
  gap_ne_empty : ∀ part ∈ parts.dropLast, part.2 ≠ ""

namespace Layout

/-- The text of a layout, from the separators before the first token to those after the last one. -/
def text (layout : Layout) : String :=
  layout.start ++ String.join (layout.parts.map fun part => part.1 ++ part.2)

/-- The tokens of a layout, in the order in which they stand. -/
def tokens (layout : Layout) : List String :=
  layout.parts.map Prod.fst

/-- The characters of a layout, part by part. -/
theorem toList_text (layout : Layout) : layout.text.toList =
    layout.start.toList ++ layout.parts.flatMap fun part => part.1.toList ++ part.2.toList := by
  simp [text, String.toList_join, List.flatMap_map]

/-- The text of a layout is made of its tokens, by induction on the parts with the separators before
them. -/
theorem isListOf_text (layout : Layout) : IsListOf layout.text.toList layout.tokens := by
  rw [toList_text]
  obtain ⟨start, parts, hstart, htokens, hgaps, hbetween⟩ := layout
  induction parts generalizing start with
  | nil => simpa [tokens] using IsListOf.nil hstart
  | cons part parts ih =>
    obtain ⟨token, gap⟩ := part
    obtain ⟨htoken, htokens⟩ := List.forall_mem_cons.1 htokens
    obtain ⟨hgap, hgaps⟩ := List.forall_mem_cons.1 hgaps
    have hbetween' : ∀ part ∈ parts.dropLast, part.2 ≠ "" := by
      intro part hpart
      refine hbetween part ?_
      rw [List.dropLast_cons_of_ne_nil (List.ne_nil_of_mem (List.mem_of_mem_dropLast hpart))]
      exact .tail _ hpart
    have hrest := ih gap hgap htokens hgaps hbetween'
    have hstops : Stops (fun c => !isSeparator c)
        (gap.toList ++ parts.flatMap fun part => part.1.toList ++ part.2.toList) := by
      cases hcs : gap.toList with
      | cons c cs => simpa using hgap c (hcs ▸ .head _)
      | nil =>
        have hnone : parts = [] := by
          by_contra hne
          refine hbetween (token, gap) ?_ (String.toList_inj.1 hcs)
          rw [List.dropLast_cons_of_ne_nil hne]
          exact .head _
        simp [hnone]
    simpa [tokens] using IsListOf.cons hstart htoken hstops hrest

/-- The layout of no tokens, which may have separators in it all the same. -/
def blank (gap : String) (hgap : AllSeparators gap.toList) : Layout where
  start := gap
  parts := []
  allSeparators_start := hgap
  isToken := fun _ h => nomatch h
  allSeparators := fun _ h => nomatch h
  gap_ne_empty := fun _ h => nomatch h

/-- A layout with one more token before it, and separators before that. Where the layout has tokens
it has to start with a separator, so that the tokens do not run together. -/
def cons (gap token : String) (layout : Layout) (hgap : AllSeparators gap.toList)
    (htoken : IsToken token) (hstart : layout.parts ≠ [] → layout.start ≠ "") : Layout where
  start := gap
  parts := (token, layout.start) :: layout.parts
  allSeparators_start := hgap
  isToken := List.forall_mem_cons.2 ⟨htoken, layout.isToken⟩
  allSeparators := List.forall_mem_cons.2 ⟨layout.allSeparators_start, layout.allSeparators⟩
  gap_ne_empty := by
    cases hparts : layout.parts with
    | nil => exact fun _ h => nomatch h
    | cons part parts =>
      rw [List.dropLast_cons_cons, ← hparts]
      exact List.forall_mem_cons.2 ⟨hstart (by simp [hparts]), layout.gap_ne_empty⟩

end Layout

/-- What is made of tokens is a layout of them, by induction on how it is made, with one more token
for each step. -/
theorem IsListOf.exists_layout (h : IsListOf cs ts) :
    ∃ layout : Layout, layout.text.toList = cs ∧ layout.tokens = ts := by
  induction h with
  | @nil gap hgap =>
    rw [← String.toList_ofList (l := gap)] at hgap
    exact ⟨.blank _ hgap, by simp [Layout.blank, Layout.toList_text], rfl⟩
  | @cons gap token rest tokens hgap htoken hstops _ ih =>
    obtain ⟨layout, rfl, rfl⟩ := ih
    rw [← String.toList_ofList (l := gap)] at hgap
    have hstart : layout.parts ≠ [] → layout.start ≠ "" := by
      intro hparts hempty
      obtain ⟨part, parts, hparts⟩ := List.exists_cons_of_ne_nil hparts
      have hpart : IsToken part.1 := layout.isToken part (hparts ▸ .head _)
      rw [Layout.toList_text, hempty, hparts, List.flatMap_cons, List.append_assoc] at hstops
      exact hpart.not_stops _ hstops
    exact ⟨.cons _ token layout hgap htoken hstart, by simp [Layout.cons, Layout.toList_text],
      rfl⟩

/-- The tokens of a text are those that it is a layout of. -/
theorem tokens_eq_iff_exists_layout :
    tokens s = ts ↔ ∃ layout : Layout, layout.text = s ∧ layout.tokens = ts := by
  rw [eq_comm, ← isListOf_iff]
  constructor
  · intro h
    obtain ⟨layout, htext, htokens⟩ := h.exists_layout
    exact ⟨layout, String.toList_inj.1 htext, htokens⟩
  · rintro ⟨layout, rfl, rfl⟩
    exact layout.isListOf_text

/-! ## What is kept -/

/-- Without its separators a text is the tokens that it is made of, one after the other. -/
theorem IsListOf.filter_eq (h : IsListOf cs ts) :
    cs.filter (fun c => !isSeparator c) = ts.flatMap String.toList := by
  have hgaps : ∀ {gap : List Char}, AllSeparators gap → gap.filter (fun c => !isSeparator c) = [] :=
    fun hgap => List.filter_eq_nil_iff.2 fun c hc => by simp [hgap c hc]
  induction h with
  | nil hgap => simp [hgaps hgap]
  | @cons gap token rest tokens hgap htoken _ _ ih =>
    have hkept : token.toList.filter (fun c => !isSeparator c) = token.toList :=
      List.filter_eq_self.2 fun c hc => by simp [htoken.2 c hc]
    simp [hgaps hgap, hkept, ih]

/-- The tokens together are the text without its separators, so that nothing is lost and nothing is
added. -/
theorem flatMap_toList_tokens (s : String) :
    (tokens s).flatMap String.toList = s.toList.filter (fun c => !isSeparator c) :=
  (isListOf_iff.2 rfl).filter_eq.symm

/-- No token is empty, and none holds a separator. The tokens are the longest runs without
separators in the order of the text, and the text is a layout of them and of no other tokens: there
are separators between any two of them, perhaps some around them, and nothing else. So a list of
tokens is got back from each of its layouts, and a separator between two texts splits them. -/
theorem tokens_laidOut (s : String) :
    (∀ token ∈ tokens s, token ≠ "" ∧ ∀ c ∈ token.toList, isSeparator c = false) ∧
    (∀ front token back, tokens s = front ++ token :: back ↔
      ∃ before after, IsRun s before token after ∧ tokens before = front ∧ tokens after = back) ∧
    (∀ ts, tokens s = ts ↔ ∃ layout : Layout, layout.text = s ∧ layout.tokens = ts) ∧
    (tokens s).flatMap String.toList = s.toList.filter (fun c => !isSeparator c) ∧
    ∀ t c, isSeparator c = true → tokens (s ++ String.singleton c ++ t) = tokens s ++ tokens t := by
  refine ⟨fun token => isToken_of_mem_tokens, fun front token back => tokens_eq_append_cons_iff,
    fun ts => tokens_eq_iff_exists_layout, flatMap_toList_tokens s, fun t c hc => ?_⟩
  exact tokens_append_separator (String.toList_singleton c) hc s t

/-- Separators of both kinds between two tokens and around them, and a third token after one
more. -/
theorem tokens_laidOut_three :
    tokens ",1, -2.5e3 " = ["1", "-2.5e3"] ∧ "-2.5e3" ∈ tokens ",1, -2.5e3 " ∧
      IsToken "-2.5e3" ∧ isSeparator ',' = true ∧
      tokens (",1, -2.5e3 " ++ String.singleton ',' ++ "x ") = ["1", "-2.5e3"] ++ tokens "x " := by
  obtain ⟨htoken, -, hlayout, -, happend⟩ := tokens_laidOut ",1, -2.5e3 "
  have htokens : tokens ",1, -2.5e3 " = ["1", "-2.5e3"] := by
    refine (hlayout _).2 ⟨⟨",", [("1", ", "), ("-2.5e3", " ")], ?_, ?_, ?_, ?_⟩, rfl, rfl⟩
    all_goals simp [AllSeparators, IsToken, isSeparator]
  have hmem : "-2.5e3" ∈ tokens ",1, -2.5e3 " := by simp [htokens]
  have hseparator : isSeparator ',' = true := rfl
  refine ⟨htokens, hmem, htoken _ hmem, hseparator, ?_⟩
  rw [happend "x " ',' hseparator, htokens]

end MarkupValues.Numeric
