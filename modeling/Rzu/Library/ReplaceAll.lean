import Mathlib.Data.List.Infix

/-!
# Replacing every occurrence

Every occurrence of a text in another is replaced, from the left, and none of
them overlaps one before.
-/

namespace Rzu
namespace Library

variable {α β : Type} [DecidableEq α] [DecidableEq β]

/-- Go on behind an occurrence of which some elements are left to skip. -/
def replaceFrom (source target : List α) : Nat -> List α -> List α
  | _, [] => []
  | skip + 1, _ :: rest => replaceFrom source target skip rest
  | 0, c :: rest =>
      if source <+: c :: rest then
        target ++ replaceFrom source target (source.length - 1) rest
      else c :: replaceFrom source target 0 rest

def replaceAll (source target text : List α) : List α :=
  if source = [] then text else replaceFrom source target 0 text

section ReplaceAll

variable {source target text : List α}

theorem replaceFrom_drop (skip : Nat) (text : List α) :
    replaceFrom source target skip text =
      replaceFrom source target 0 (text.drop skip) := by
  induction skip generalizing text with
  | zero => rfl
  | succ skip ih =>
      cases text with
      | nil => rfl
      | cons c rest => exact ih rest

theorem replaceAll_nil : replaceAll source target [] = [] := by
  rw [replaceAll]
  split
  · rfl
  · rfl

theorem replaceAll_source (hsource : source ≠ []) (text : List α) :
    replaceAll source target (source ++ text) =
      target ++ replaceAll source target text := by
  rw [replaceAll, if_neg hsource, replaceAll, if_neg hsource]
  cases source with
  | nil => exact absurd rfl hsource
  | cons c rest =>
      have hfront : c :: rest <+: c :: (rest ++ text) :=
        List.prefix_append (c :: rest) text
      rw [List.cons_append, replaceFrom, if_pos hfront, replaceFrom_drop]
      simp

theorem replaceAll_cons {c : α} (h : ¬source <+: c :: text) :
    replaceAll source target (c :: text) =
      c :: replaceAll source target text := by
  have hsource : source ≠ [] := by
    intro heq
    rw [heq] at h
    exact h List.nil_prefix
  rw [replaceAll, if_neg hsource, replaceAll, if_neg hsource, replaceFrom,
    if_neg h]

@[elab_as_elim]
theorem replaceAll_induction {motive : List α -> Prop}
    (hsource : source ≠ []) (nil : motive [])
    (occurrence : forall text, motive text -> motive (source ++ text))
    (other : forall c text, ¬source <+: c :: text -> motive text ->
      motive (c :: text)) (text : List α) : motive text := by
  induction hlength : text.length using Nat.strongRecOn generalizing text with
  | ind n ih =>
      cases text with
      | nil => exact nil
      | cons c rest =>
          by_cases hfront : source <+: c :: rest
          · rcases hfront with ⟨later, hlater⟩
            rw [← hlater]
            refine occurrence later (ih later.length ?_ later rfl)
            have hpositive := List.length_pos_iff.mpr hsource
            rw [← hlength, ← hlater, List.length_append]
            lia
          · refine other c rest hfront (ih rest.length ?_ rest rfl)
            rw [← hlength]
            exact Nat.lt_succ_self _

theorem replaceAll_eq_self (h : ¬source <:+: text) :
    replaceAll source target text = text := by
  induction text with
  | nil => exact replaceAll_nil
  | cons c rest ih =>
      rw [replaceAll_cons fun hfront => h hfront.isInfix,
        ih fun hpart => h (List.infix_cons hpart)]

theorem replaceAll_self (hsource : source ≠ []) :
    replaceAll source target source = target := by
  have hwhole : replaceAll source target (source ++ []) =
      target ++ replaceAll source target [] := replaceAll_source hsource []
  rw [List.append_nil, replaceAll_nil, List.append_nil] at hwhole
  exact hwhole

theorem mem_replaceAll {x : α} (hsource : source ≠ [])
    (h : x ∈ replaceAll source target text) : x ∈ target ∨ x ∈ text := by
  induction text using replaceAll_induction hsource with
  | nil =>
      rw [replaceAll_nil] at h
      cases h
  | occurrence text ih =>
      rw [replaceAll_source hsource, List.mem_append] at h
      rcases h with htarget | hlater
      · exact Or.inl htarget
      · exact (ih hlater).imp_right fun hmem =>
          List.mem_append_right source hmem
  | other c text hfront ih =>
      rw [replaceAll_cons hfront, List.mem_cons] at h
      rcases h with heq | hlater
      · exact Or.inr (heq ▸ List.mem_cons_self)
      · exact (ih hlater).imp_right fun hmem => List.mem_cons_of_mem c hmem

/-!
## Separators
-/

omit [DecidableEq α] in
/-- An occurrence does not reach over what is not in it. -/
theorem prefix_of_prefix_separator {c : α} {rest : List α} (hc : c ∉ source)
    (h : source <+: text ++ c :: rest) : source <+: text := by
  rcases List.prefix_or_prefix_of_prefix h (List.prefix_append text (c :: rest))
    with hfront | hlonger
  · exact hfront
  · rcases hlonger with ⟨later, rfl⟩
    cases later with
    | nil =>
        rw [List.append_nil]
    | cons d later =>
        rw [List.prefix_append_right_inj, List.cons_prefix_cons] at h
        refine absurd ?_ hc
        rw [← h.left]
        exact List.mem_append_right _ List.mem_cons_self

theorem replaceAll_separator (hsource : source ≠ []) {c : α} (hc : c ∉ source)
    (rest : List α) :
    replaceAll source target (text ++ c :: rest) =
      replaceAll source target text ++
        c :: replaceAll source target rest := by
  induction text using replaceAll_induction hsource with
  | nil =>
      have hfront : ¬source <+: c :: rest := by
        intro h
        have hnil : source <+: [] := prefix_of_prefix_separator hc h
        exact hsource (List.prefix_nil.mp hnil)
      rw [List.nil_append, replaceAll_cons hfront, replaceAll_nil,
        List.nil_append]
  | occurrence text ih =>
      rw [List.append_assoc, replaceAll_source hsource, ih,
        replaceAll_source hsource, List.append_assoc]
  | other d text hfront ih =>
      have hstays : ¬source <+: d :: (text ++ c :: rest) := fun h =>
        hfront (prefix_of_prefix_separator hc h)
      rw [List.cons_append, replaceAll_cons hstays, ih,
        replaceAll_cons hfront, List.cons_append]

/-- What is between separators is replaced on its own. -/
theorem replaceAll_intercalate (hsource : source ≠ []) {c : α}
    (hc : c ∉ source) (fields : List (List α)) :
    replaceAll source target ([c].intercalate fields) =
      [c].intercalate (fields.map (replaceAll source target)) := by
  induction fields with
  | nil => exact replaceAll_nil
  | cons field fields ih =>
      cases fields with
      | nil => simp
      | cons next fields =>
          rw [List.intercalate_cons_cons, List.append_assoc,
            List.singleton_append, replaceAll_separator hsource hc, ih,
            List.map_cons, List.map_cons, List.map_cons,
            List.intercalate_cons_cons, List.append_assoc,
            List.singleton_append]

/-!
## Marks

An element that is not in a text can mark the occurrences in it.
-/

variable {mark : α}

theorem flatMap_replaceAll_mark (hsource : source ≠ []) (hmark : mark ∉ text) :
    (replaceAll source [mark] text).flatMap
      (fun x => if x = mark then source else [x]) = text := by
  induction text using replaceAll_induction hsource with
  | nil => rw [replaceAll_nil, List.flatMap_nil]
  | occurrence text ih =>
      rw [List.mem_append, not_or] at hmark
      rw [replaceAll_source hsource, List.singleton_append, List.flatMap_cons,
        if_pos rfl, ih hmark.right]
  | other c text hfront ih =>
      rw [List.mem_cons, not_or] at hmark
      rw [replaceAll_cons hfront, List.flatMap_cons,
        if_neg (Ne.symm hmark.left), ih hmark.right, List.singleton_append]

theorem replaceAll_mark :
    replaceAll [mark] target text =
      text.flatMap fun x => if x = mark then target else [x] := by
  induction text with
  | nil => exact replaceAll_nil
  | cons c text ih =>
      rw [List.flatMap_cons]
      by_cases hc : c = mark
      · have hsingle : c :: text = [mark] ++ text := by rw [hc]; rfl
        rw [hsingle, replaceAll_source (List.cons_ne_nil _ _), ih, if_pos hc]
      · have hfront : ¬[mark] <+: c :: text := by
          rw [List.cons_prefix_cons]
          exact fun h => hc h.left.symm
        rw [replaceAll_cons hfront, ih, if_neg hc, List.singleton_append]

theorem mem_replaceAll_mark (hsource : source ≠ []) (hmark : mark ∉ text) :
    mark ∈ replaceAll source [mark] text ↔ source <:+: text := by
  constructor
  · intro h
    by_contra hpart
    rw [replaceAll_eq_self hpart] at h
    exact hmark h
  · intro h
    induction text using replaceAll_induction hsource with
    | nil => exact absurd (List.infix_nil.mp h) hsource
    | occurrence text ih =>
        rw [replaceAll_source hsource]
        exact List.mem_cons_self
    | other c text hfront ih =>
        rw [List.mem_cons, not_or] at hmark
        rw [replaceAll_cons hfront]
        rcases List.infix_cons_iff.mp h with hfirst | hlater
        · exact absurd hfirst hfront
        · exact List.mem_cons_of_mem c (ih hmark.right hlater)

/-!
## What does not come with a replacement
-/

theorem prefix_of_prefix_replaceAll {u : List α} (hsource : source ≠ [])
    (htarget : target ≠ []) (hu : forall x, x ∈ target -> x ∉ u)
    (h : u <+: replaceAll source target text) : u <+: text := by
  induction text using replaceAll_induction hsource generalizing u with
  | nil =>
      rw [replaceAll_nil] at h
      exact h
  | occurrence text ih =>
      rw [replaceAll_source hsource] at h
      cases u with
      | nil => exact List.nil_prefix
      | cons c u =>
          cases target with
          | nil => exact absurd rfl htarget
          | cons d target =>
              rw [List.cons_append, List.cons_prefix_cons] at h
              refine absurd ?_ (hu d List.mem_cons_self)
              rw [h.left]
              exact List.mem_cons_self
  | other c text hfront ih =>
      rw [replaceAll_cons hfront] at h
      cases u with
      | nil => exact List.nil_prefix
      | cons d u =>
          rw [List.cons_prefix_cons] at h ⊢
          exact ⟨h.left, ih (fun x hx hmem =>
            hu x hx (List.mem_cons_of_mem d hmem)) h.right⟩

omit [DecidableEq α] in
theorem infix_append_of_disjoint {u v later : List α} (hne : u ≠ [])
    (hu : forall x, x ∈ v -> x ∉ u) (h : u <:+: v ++ later) : u <:+: later := by
  induction v with
  | nil => exact h
  | cons c v ih =>
      have hrest := ih fun x hx => hu x (List.mem_cons_of_mem c hx)
      rcases List.infix_cons_iff.mp h with hfirst | hlater
      · cases u with
        | nil => exact absurd rfl hne
        | cons d u =>
            rw [List.cons_prefix_cons] at hfirst
            refine absurd ?_ (hu c List.mem_cons_self)
            rw [hfirst.left]
            exact List.mem_cons_self
      · exact hrest hlater

theorem infix_of_infix_replaceAll {u : List α} (hsource : source ≠ [])
    (htarget : target ≠ []) (hne : u ≠ [])
    (hu : forall x, x ∈ target -> x ∉ u)
    (h : u <:+: replaceAll source target text) : u <:+: text := by
  induction text using replaceAll_induction hsource with
  | nil =>
      rw [replaceAll_nil] at h
      exact h
  | occurrence text ih =>
      rw [replaceAll_source hsource] at h
      exact (ih (infix_append_of_disjoint hne hu h)).trans
        (List.suffix_append source text).isInfix
  | other c text hfront ih =>
      have hline : replaceAll source target (c :: text) = _ :=
        replaceAll_cons hfront
      rw [hline] at h
      rcases List.infix_cons_iff.mp h with hfirst | hlater
      · rw [← hline] at hfirst
        exact (prefix_of_prefix_replaceAll hsource htarget hu hfirst).isInfix
      · exact List.infix_cons (ih hlater)

theorem not_infix_replaceAll_mark (hsource : source ≠ [])
    (hmark : mark ∉ source) : ¬source <:+: replaceAll source [mark] text := by
  have hdisjoint : forall x, x ∈ [mark] -> x ∉ source := by
    intro x hx
    rw [List.mem_singleton.mp hx]
    exact hmark
  induction text using replaceAll_induction hsource with
  | nil =>
      rw [replaceAll_nil]
      exact fun h => hsource (List.infix_nil.mp h)
  | occurrence text ih =>
      rw [replaceAll_source hsource]
      exact fun h => ih (infix_append_of_disjoint hsource hdisjoint h)
  | other c text hfront ih =>
      have hline : replaceAll source [mark] (c :: text) = _ :=
        replaceAll_cons hfront
      rw [hline]
      intro h
      rcases List.infix_cons_iff.mp h with hfirst | hlater
      · rw [← hline] at hfirst
        exact hfront (prefix_of_prefix_replaceAll hsource
          (List.cons_ne_nil _ _) hdisjoint hfirst)
      · exact ih hlater

theorem countP_replaceAll {p : α -> Bool} (hsource : source ≠ [])
    (hcount : source.countP p = target.countP p) :
    (replaceAll source target text).countP p = text.countP p := by
  induction text using replaceAll_induction hsource with
  | nil => rw [replaceAll_nil]
  | occurrence text ih =>
      rw [replaceAll_source hsource, List.countP_append, List.countP_append,
        ih, hcount]
  | other c text hfront ih =>
      rw [replaceAll_cons hfront, List.countP_cons, List.countP_cons, ih]

end ReplaceAll

/-!
## Tokens

Texts made of tokens, each of which stands for a text of its own.
-/

section Tokens

variable {render : β -> List α}

/-- Behind the first element of a token there is no occurrence. -/
def Closed (render : β -> List α) (source : List α) : Prop :=
  forall token c later, render token = c :: later ->
    forall v, v <:+ later -> v ≠ [] -> forall rest, ¬source <+: v ++ rest

theorem replaceAll_append_closed {source target v rest : List α}
    (h : forall w, w <:+ v -> w ≠ [] -> ¬source <+: w ++ rest) :
    replaceAll source target (v ++ rest) =
      v ++ replaceAll source target rest := by
  induction v with
  | nil => rfl
  | cons c v ih =>
      have hfront := h (c :: v) (List.suffix_refl _) (List.cons_ne_nil _ _)
      have hrest := ih fun w hw =>
        h w (hw.trans (List.suffix_cons c v))
      rw [List.cons_append] at hfront
      rw [List.cons_append, replaceAll_cons hfront, hrest, List.cons_append]

/-- Replacing tokens is replacing what they stand for. -/
theorem replaceAll_render {source : List β} {target tokens : List β}
    (hsource : source ≠ []) (hrender : forall token, render token ≠ [])
    (hclosed : Closed render (source.flatMap render))
    (hfront : forall later, later <:+ tokens ->
      source.flatMap render <+: later.flatMap render -> source <+: later) :
    replaceAll (source.flatMap render) (target.flatMap render)
        (tokens.flatMap render) =
      (replaceAll source target tokens).flatMap render := by
  have htext : source.flatMap render ≠ [] := by
    cases source with
    | nil => exact absurd rfl hsource
    | cons token source =>
        rw [List.flatMap_cons]
        exact List.append_ne_nil_of_left_ne_nil (hrender token) _
  induction tokens using replaceAll_induction hsource with
  | nil => rw [List.flatMap_nil, replaceAll_nil, replaceAll_nil,
      List.flatMap_nil]
  | occurrence tokens ih =>
      rw [List.flatMap_append, replaceAll_source htext,
        replaceAll_source hsource, List.flatMap_append,
        ih fun later hlater =>
          hfront later (hlater.trans (List.suffix_append source tokens))]
  | other token tokens hother ih =>
      have hrest := ih fun later hlater =>
        hfront later (hlater.trans (List.suffix_cons token tokens))
      have hstays : ¬source.flatMap render <+:
          (token :: tokens).flatMap render := fun h =>
        hother (hfront (token :: tokens) (List.suffix_refl _) h)
      rw [replaceAll_cons hother, List.flatMap_cons, List.flatMap_cons,
        ← hrest]
      rw [List.flatMap_cons] at hstays
      cases htoken : render token with
      | nil => exact absurd htoken (hrender token)
      | cons c later =>
          rw [htoken, List.cons_append] at hstays
          rw [List.cons_append, replaceAll_cons hstays,
            replaceAll_append_closed fun w hw hne =>
              hclosed token c later htoken w hw hne _]
          rfl

end Tokens

end Library
end Rzu
