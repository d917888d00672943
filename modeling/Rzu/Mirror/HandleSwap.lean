import Rzu.Mirror.HandleText

/-!
# Whether handles are swapped in party messages

The replacements swap whole fields, as long as neither handle occurs anywhere
else and the message has no placeholder.
-/

namespace Rzu
namespace Mirror

open Library
open Library.Numeral
open Core
open Packet
open Token

/-!
## Swapping fields
-/

/-- A field that is one of two texts becomes the other one. -/
def swapField (first second field : CharString) : CharString :=
  if field = first then second
  else if field = second then first
  else field

def swapFields (first second message : CharString) : CharString :=
  [bar].intercalate ((message.splitOn bar).map (swapField first second))

/-- The conversion swaps the fields, and the way back restores the packet. -/
structure SwapsExactly (localPlayerClientHandle localPlayerServerHandle :
    UInt32) (packet : Record) : Prop where
  there : convertChat localPlayerClientHandle localPlayerServerHandle packet =
    packet.setString "message"
      (swapFields (handleText localPlayerClientHandle)
        (handleText localPlayerServerHandle) (packet.string "message"))
  back : convertChat localPlayerServerHandle localPlayerClientHandle
    (convertChat localPlayerClientHandle localPlayerServerHandle packet) =
      packet

/--
A field has no placeholder, and neither text in it; or it is the first one; or
it is the second one, and none of the two occurs in the other.
-/
def FieldFit (first second field : CharString) : Prop :=
  ¬CLIENTHNDL <:+: field ∧ ¬SERVERHNDL <:+: field ∧
    (field = first ∨
      (field = second ∧ ¬first <:+: second ∧ ¬second <:+: first) ∨
      (¬first <:+: field ∧ ¬second <:+: field))

/-!
## Marks
-/

section Marks

variable {first second field : CharString} {tokens : List Token}

theorem flatMap_marked (hfirst : first ≠ []) (hsecond : second ≠ [])
    (field : CharString) :
    (marked first second (field.map char)).flatMap (expand first second) =
      field := by
  have hserver : server ∉
      replaceAll (first.map char) [client] (field.map char) := by
    intro hmem
    rcases mem_replaceAll (map_char_ne_nil hfirst) hmem with hmark | hchar
    · cases List.mem_singleton.mp hmark
    · exact server_notMem_char field hchar
  have hback := flatMap_replaceAll_mark (map_char_ne_nil hsecond) hserver
  have hall := flatMap_replaceAll_mark (map_char_ne_nil hfirst)
    (client_notMem_char field)
  rw [← hback, List.flatMap_assoc] at hall
  have htext := congrArg (List.flatMap render) hall
  rw [flatMap_render_char, List.flatMap_assoc] at htext
  rw [marked]
  refine Eq.trans ?_ htext
  congr 1
  funext token
  rw [List.flatMap_assoc]
  exact (fill_token second first token).symm

theorem not_infix_of_unmarked (hfirst : first ≠ []) (hsecond : second ≠ [])
    (hclient : client ∉ marked first second (field.map char))
    (hserver : server ∉ marked first second (field.map char)) :
    ¬first <:+: field ∧ ¬second <:+: field := by
  have hserver' : server ∉
      replaceAll (first.map char) [client] (field.map char) := by
    intro hmem
    rcases mem_replaceAll (map_char_ne_nil hfirst) hmem with hmark | hchar
    · cases List.mem_singleton.mp hmark
    · exact server_notMem_char field hchar
  have hsecondNot : ¬second.map char <:+:
      replaceAll (first.map char) [client] (field.map char) := fun h =>
    hserver ((mem_replaceAll_mark (map_char_ne_nil hsecond) hserver').mpr h)
  rw [marked, replaceAll_eq_self hsecondNot] at hclient
  have hfirstNot : ¬first.map char <:+: field.map char := fun h =>
    hclient ((mem_replaceAll_mark (map_char_ne_nil hfirst)
      (client_notMem_char field)).mpr h)
  rw [replaceAll_eq_self hfirstNot] at hsecondNot
  exact ⟨fun h => hfirstNot (h.map char), fun h => hsecondNot (h.map char)⟩

theorem server_notMem_marked (hfirst : first ≠ []) (hsecond : second ≠ [])
    (hpart : first <:+: second) :
    server ∉ marked first second (field.map char) := by
  have hserver : server ∉
      replaceAll (first.map char) [client] (field.map char) := by
    intro hmem
    rcases mem_replaceAll (map_char_ne_nil hfirst) hmem with hmark | hchar
    · cases List.mem_singleton.mp hmark
    · exact server_notMem_char field hchar
  intro hmem
  have hfound := (mem_replaceAll_mark (map_char_ne_nil hsecond) hserver).mp hmem
  exact not_infix_replaceAll_mark (map_char_ne_nil hfirst)
    (client_notMem_char first) ((hpart.map char).trans hfound)

theorem prefix_of_exchanged
    (hmark : client ∈ tokens ∨ server ∈ tokens)
    (heq : tokens.flatMap (expand first second) =
      tokens.flatMap (expand second first)) :
    first <+: second ∨ second <+: first := by
  induction tokens with
  | nil =>
      rcases hmark with hmem | hmem
      · cases hmem
      · cases hmem
  | cons token tokens ih =>
      rw [List.flatMap_cons, List.flatMap_cons] at heq
      cases token with
      | char c =>
          refine ih ?_ (List.append_cancel_left heq)
          rcases hmark with hmem | hmem
          · rcases List.mem_cons.mp hmem with hhead | htail
            · cases hhead
            · exact Or.inl htail
          · rcases List.mem_cons.mp hmem with hhead | htail
            · cases hhead
            · exact Or.inr htail
      | client =>
          have hfirst : first <+: second ++ tokens.flatMap
              (expand second first) := ⟨_, heq⟩
          exact List.prefix_or_prefix_of_prefix hfirst
            (List.prefix_append second _)
      | server =>
          have hsecond : second <+: first ++ tokens.flatMap
              (expand second first) := ⟨_, heq⟩
          exact (List.prefix_or_prefix_of_prefix hsecond
            (List.prefix_append first _)).symm

theorem length_exchanged (first second : CharString)
    (hserver : server ∉ tokens) :
    (tokens.flatMap (expand first second)).length +
        tokens.count client * second.length =
      (tokens.flatMap (expand second first)).length +
        tokens.count client * first.length := by
  induction tokens with
  | nil => simp
  | cons token tokens ih =>
      rw [List.mem_cons, not_or] at hserver
      have hrest := ih hserver.right
      rw [List.flatMap_cons, List.flatMap_cons, List.length_append,
        List.length_append, List.count_cons]
      cases token with
      | char c =>
          simp only [expand, List.length_singleton]
          simp only [beq_iff_eq, reduceCtorEq, if_false, Nat.add_zero]
          lia
      | client =>
          simp only [expand, beq_self_eq_true, if_true, Nat.add_mul,
            Nat.one_mul]
          lia
      | server => exact absurd rfl hserver.left

end Marks

/-!
## Placeholders in a message
-/

section Placeholders

variable {first second field : CharString} {tokens : List Token}

/-- A text, with its placeholders as tokens. -/
def parsed (field : CharString) : List Token :=
  marked CLIENTHNDL SERVERHNDL (field.map char)

theorem render_parsed (field : CharString) :
    (parsed field).flatMap render = field :=
  flatMap_marked (by decide) (by decide) field

theorem normal_parsed (field : CharString) : Normal (parsed field) := by
  rw [parsed, marked]
  constructor
  · intro h
    have hdisjoint : forall x, x ∈ [server] -> x ∉ CLIENTHNDL.map char := by
      decide
    have hearlier : CLIENTHNDL.map char <:+:
        replaceAll (CLIENTHNDL.map char) [client] (field.map char) :=
      infix_of_infix_replaceAll (by decide) (List.cons_ne_nil _ _) (by decide)
        hdisjoint h
    exact not_infix_replaceAll_mark (by decide) (by decide) hearlier
  · intro h
    have hnone : ¬SERVERHNDL.map char <:+: replaceAll (SERVERHNDL.map char)
        [server] (replaceAll (CLIENTHNDL.map char) [client]
          (field.map char)) :=
      not_infix_replaceAll_mark (by decide) (by decide)
    exact hnone h

theorem normal_map_char (hclient : ¬CLIENTHNDL <:+: field)
    (hserver : ¬SERVERHNDL <:+: field) : Normal (field.map char) := by
  constructor
  · intro h
    have hpart := infix_render h
    rw [flatMap_render_char] at hpart
    exact hclient hpart
  · intro h
    have hpart := infix_render h
    rw [flatMap_render_char] at hpart
    exact hserver hpart

theorem countP_expand (hfirst : IsNumber first) (hsecond : IsNumber second)
    (tokens : List Token) :
    (tokens.flatMap (expand first second)).countP (fun c => !isDigit c) =
      tokens.countP isLetter := by
  have hnumber : forall text, IsNumber text ->
      text.countP (fun c => !isDigit c) = 0 := by
    intro text h
    refine List.countP_eq_zero.mpr fun c hc => ?_
    rw [h.digits c hc]
    exact Bool.false_ne_true
  induction tokens with
  | nil => rfl
  | cons token tokens ih =>
      rw [List.flatMap_cons, List.countP_append, ih, List.countP_cons]
      cases token with
      | char c => simp [expand, isLetter, List.countP_cons, Nat.add_comm]
      | client => simp [expand, isLetter, hnumber first hfirst]
      | server => simp [expand, isLetter, hnumber second hsecond]

theorem countP_marked (hfirst : IsNumber first) (hsecond : IsNumber second)
    (tokens : List Token) :
    (marked first second tokens).countP isLetter = tokens.countP isLetter := by
  have hnumber : forall text, IsNumber text ->
      (text.map char).countP isLetter = 0 := by
    intro text h
    refine List.countP_eq_zero.mpr fun token htoken => ?_
    rcases List.mem_map.mp htoken with ⟨c, hc, rfl⟩
    rw [isLetter, h.digits c hc]
    exact Bool.false_ne_true
  rw [marked, countP_replaceAll (map_char_ne_nil hsecond.nonempty),
    countP_replaceAll (map_char_ne_nil hfirst.nonempty)]
  · rw [hnumber first hfirst]
    rfl
  · rw [hnumber second hsecond]
    rfl

theorem countP_render_le (tokens : List Token) :
    tokens.countP isLetter + tokens.countP isMark ≤
      (tokens.flatMap render).countP (fun c => !isDigit c) := by
  induction tokens with
  | nil => exact Nat.le_refl 0
  | cons token tokens ih =>
      rw [List.flatMap_cons, List.countP_append, List.countP_cons,
        List.countP_cons]
      cases token with
      | char c =>
          simp only [isLetter, isMark, render, List.countP_cons,
            List.countP_nil, Bool.false_eq_true, if_false]
          lia
      | client =>
          have hletters : CLIENTHNDL.countP (fun c => !isDigit c) = 10 := by
            decide
          simp only [isLetter, isMark, render, hletters, if_true,
            Bool.false_eq_true, if_false]
          lia
      | server =>
          have hletters : SERVERHNDL.countP (fun c => !isDigit c) = 10 := by
            decide
          simp only [isLetter, isMark, render, hletters, if_true,
            Bool.false_eq_true, if_false]
          lia

theorem not_placeholder_of_kept (hfirst : IsNumber first)
    (hsecond : IsNumber second)
    (hkept : convertText first second field = field) :
    ¬CLIENTHNDL <:+: field ∧ ¬SERVERHNDL <:+: field := by
  have hconverted := convertText_render hfirst hsecond (normal_parsed field)
  rw [render_parsed, hkept] at hconverted
  have hletters := congrArg (List.countP fun c => !isDigit c) hconverted
  rw [countP_expand hsecond hfirst, countP_marked hfirst hsecond] at hletters
  have hmore := countP_render_le (parsed field)
  rw [render_parsed, hletters] at hmore
  have hnone : (parsed field).countP isMark = 0 := by lia
  have hmarks := List.countP_eq_zero.mp hnone
  exact not_infix_of_unmarked (by decide) (by decide)
    (fun h => hmarks client h rfl) fun h => hmarks server h rfl

end Placeholders

/-!
## Single fields
-/

section Fields

variable {first second field : CharString}

theorem IsNumber.not_placeholder (h : IsNumber field) :
    ¬CLIENTHNDL <:+: field ∧ ¬SERVERHNDL <:+: field := by
  constructor
  · intro hpart
    have hletter : (67 : UInt8) ∈ field := hpart.subset (by decide)
    exact h.notMem (by decide) hletter
  · intro hpart
    have hletter : (83 : UInt8) ∈ field := hpart.subset (by decide)
    exact h.notMem (by decide) hletter

theorem IsNumber.not_infix {letters : CharString} (h : IsNumber field)
    (hletters : (letters.all fun c => !isDigit c) = true) :
    ¬field <:+: letters := by
  intro hpart
  rcases List.exists_mem_of_ne_nil field h.nonempty with ⟨c, hc⟩
  have hletter := List.all_eq_true.mp hletters c (hpart.subset hc)
  rw [h.digits c hc] at hletter
  cases hletter

theorem convertText_first (hfirst : IsNumber first)
    (hsecond : IsNumber second) : convertText first second first = second := by
  have hclient : ¬second <:+: CLIENTHNDL := hsecond.not_infix (by decide)
  have hserver : ¬SERVERHNDL <:+: CLIENTHNDL := by decide
  rw [convertText, stringReplaceAll, stringReplaceAll, stringReplaceAll,
    stringReplaceAll, replaceAll_self hfirst.nonempty,
    replaceAll_eq_self hclient, replaceAll_eq_self hserver,
    replaceAll_self (by decide)]

theorem convertText_second (hfirst : IsNumber first)
    (hsecond : IsNumber second) (hpart : ¬first <:+: second) :
    convertText first second second = first := by
  rw [convertText, stringReplaceAll, stringReplaceAll, stringReplaceAll,
    stringReplaceAll, replaceAll_eq_self hpart,
    replaceAll_self hsecond.nonempty,
    replaceAll_self (by decide), replaceAll_eq_self hfirst.not_placeholder.left]

theorem convertText_other (hclient : ¬CLIENTHNDL <:+: field)
    (hserver : ¬SERVERHNDL <:+: field) (hfirst : ¬first <:+: field)
    (hsecond : ¬second <:+: field) :
    convertText first second field = field := by
  rw [convertText, stringReplaceAll, stringReplaceAll, stringReplaceAll,
    stringReplaceAll, replaceAll_eq_self hfirst, replaceAll_eq_self hsecond,
    replaceAll_eq_self hserver, replaceAll_eq_self hclient]

theorem not_infix_of_convertText_second (hfirst : IsNumber first)
    (hsecond : IsNumber second) (hne : first ≠ second)
    (h : convertText first second second = first) : ¬first <:+: second := by
  intro hpart
  have hplain := hsecond.not_placeholder
  have hconverted := convertText_render hfirst hsecond
    (normal_map_char hplain.left hplain.right)
  rw [flatMap_render_char, h] at hconverted
  have hback := flatMap_marked hfirst.nonempty hsecond.nonempty second
  have hserver : server ∉ marked first second (second.map char) :=
    server_notMem_marked hfirst.nonempty hsecond.nonempty hpart
  have hlength := length_exchanged first second hserver
  rw [hback, ← hconverted, Nat.add_comm, ← Nat.succ_mul, Nat.add_comm,
    ← Nat.succ_mul] at hlength
  exact hne (hpart.eq_of_length
    (Nat.eq_of_mul_eq_mul_left (Nat.succ_pos _) hlength.symm))

theorem not_infix_of_kept (hfirst : IsNumber first)
    (hsecond : IsNumber second) (hne : first ≠ second)
    (hpart : first <:+: second) (h : convertText first second field = field) :
    ¬first <:+: field ∧ ¬second <:+: field := by
  have hplain := not_placeholder_of_kept hfirst hsecond h
  have hconverted := convertText_render hfirst hsecond
    (normal_map_char hplain.left hplain.right)
  rw [flatMap_render_char, h] at hconverted
  have hback := flatMap_marked hfirst.nonempty hsecond.nonempty field
  have hserver : server ∉ marked first second (field.map char) :=
    server_notMem_marked hfirst.nonempty hsecond.nonempty hpart
  have hlength := length_exchanged first second hserver
  rw [hback, ← hconverted] at hlength
  have hcount : (marked first second (field.map char)).count client = 0 := by
    by_contra hpositive
    exact hne (hpart.eq_of_length
      (Nat.eq_of_mul_eq_mul_left (Nat.pos_of_ne_zero hpositive)
        (Nat.add_left_cancel hlength).symm))
  exact not_infix_of_unmarked hfirst.nonempty hsecond.nonempty
    (List.count_eq_zero.mp hcount) hserver

theorem not_infix_of_kept_both (hfirst : IsNumber first)
    (hsecond : IsNumber second) (hne : first ≠ second)
    (hthere : convertText first second field = field)
    (hback : convertText second first field = field) :
    ¬first <:+: field ∧ ¬second <:+: field := by
  have hplain := not_placeholder_of_kept hfirst hsecond hthere
  have hconverted := convertText_render hfirst hsecond
    (normal_map_char hplain.left hplain.right)
  rw [flatMap_render_char, hthere] at hconverted
  have horiginal := flatMap_marked hfirst.nonempty hsecond.nonempty field
  by_cases hmark : client ∈ marked first second (field.map char) ∨
      server ∈ marked first second (field.map char)
  · rcases prefix_of_exchanged hmark (horiginal.trans hconverted) with
      hfront | hfront
    · exact not_infix_of_kept hfirst hsecond hne hfront.isInfix hthere
    · exact (not_infix_of_kept hsecond hfirst (Ne.symm hne) hfront.isInfix
        hback).symm
  · rw [not_or] at hmark
    exact not_infix_of_unmarked hfirst.nonempty hsecond.nonempty hmark.left
      hmark.right

theorem swapField_first : swapField first second first = second := if_pos rfl

theorem swapField_second (hne : first ≠ second) :
    swapField first second second = first := by
  rw [swapField, if_neg (Ne.symm hne), if_pos rfl]

theorem fieldFit_iff (hfirst : IsNumber first) (hsecond : IsNumber second)
    (hne : first ≠ second) :
    (convertText first second field = swapField first second field ∧
      convertText second first (swapField first second field) = field) ↔
      FieldFit first second field := by
  constructor
  · intro h
    rcases h with ⟨hthere, hback⟩
    by_cases hclient : field = first
    · subst hclient
      exact ⟨hfirst.not_placeholder.left, hfirst.not_placeholder.right,
        Or.inl rfl⟩
    · by_cases hserver : field = second
      · subst hserver
        rw [swapField_second hne] at hthere hback
        refine ⟨hsecond.not_placeholder.left, hsecond.not_placeholder.right,
          Or.inr (Or.inl ⟨rfl, ?_, ?_⟩)⟩
        · exact not_infix_of_convertText_second hfirst hsecond hne hthere
        · exact not_infix_of_convertText_second hsecond hfirst (Ne.symm hne)
            hback
      · have hother : swapField first second field = field := by
          rw [swapField, if_neg hclient, if_neg hserver]
        rw [hother] at hthere hback
        have hplain := not_placeholder_of_kept hfirst hsecond hthere
        exact ⟨hplain.left, hplain.right, Or.inr (Or.inr
          (not_infix_of_kept_both hfirst hsecond hne hthere hback))⟩
  · intro h
    rcases h with ⟨hclient, hserver,
      rfl | ⟨rfl, hleft, hright⟩ | ⟨hleft, hright⟩⟩
    · rw [swapField_first]
      exact ⟨convertText_first hfirst hsecond,
        convertText_first hsecond hfirst⟩
    · rw [swapField_second hne]
      exact ⟨convertText_second hfirst hsecond hleft,
        convertText_second hsecond hfirst hright⟩
    · have hother : swapField first second field = field := by
        have hnotFirst : field ≠ first := fun heq =>
          hleft (heq ▸ List.infix_refl first)
        have hnotSecond : field ≠ second := fun heq =>
          hright (heq ▸ List.infix_refl second)
        rw [swapField, if_neg hnotFirst, if_neg hnotSecond]
      rw [hother]
      exact ⟨convertText_other hclient hserver hleft hright,
        convertText_other hclient hserver hright hleft⟩

end Fields

/-!
## Whole messages
-/

theorem notMem_of_mem_splitOn {c : UInt8} {text field : CharString}
    (h : field ∈ text.splitOn c) : c ∉ field := by
  induction text generalizing field with
  | nil =>
      rw [List.splitOn_nil, List.mem_singleton] at h
      rw [h]
      exact List.not_mem_nil
  | cons d text ih =>
      rw [List.splitOn_cons_eq_if_modifyHead] at h
      split at h
      · rcases List.mem_cons.mp h with rfl | hrest
        · exact List.not_mem_nil
        · exact ih hrest
      · rename_i hne
        cases hfields : text.splitOn c with
        | nil => exact absurd hfields (List.splitOn_ne_nil c text)
        | cons first fields =>
            rw [hfields, List.modifyHead_cons] at h
            rcases List.mem_cons.mp h with rfl | hrest
            · rw [List.mem_cons, not_or]
              refine ⟨fun heq => hne (by simp [heq]), ih ?_⟩
              rw [hfields]
              exact List.mem_cons_self
            · refine ih ?_
              rw [hfields]
              exact List.mem_cons_of_mem first hrest

section Messages

variable {first second : CharString}

theorem convertText_intercalate (hfirst : IsNumber first)
    (hsecond : IsNumber second) (fields : List CharString) :
    convertText first second ([bar].intercalate fields) =
      [bar].intercalate (fields.map (convertText first second)) := by
  have hclientBar : bar ∉ CLIENTHNDL := by decide
  have hserverBar : bar ∉ SERVERHNDL := by decide
  rw [convertText, stringReplaceAll, stringReplaceAll, stringReplaceAll,
    stringReplaceAll,
    replaceAll_intercalate hfirst.nonempty (hfirst.notMem (by decide)),
    replaceAll_intercalate hsecond.nonempty (hsecond.notMem (by decide)),
    replaceAll_intercalate (by decide) hserverBar,
    replaceAll_intercalate (by decide) hclientBar, List.map_map, List.map_map,
    List.map_map]
  rfl

theorem bar_notMem_convertText (hfirst : IsNumber first)
    (hsecond : IsNumber second) {field : CharString} (h : bar ∉ field) :
    bar ∉ convertText first second field := by
  have hreplace : forall {source target text : CharString}, source ≠ [] ->
      bar ∉ target -> bar ∉ text ->
        bar ∉ stringReplaceAll text source target := by
    intro source target text hsource htarget htext hmem
    rcases mem_replaceAll hsource hmem with hleft | hright
    · exact htarget hleft
    · exact htext hright
  have hfirstBar : bar ∉ first := hfirst.notMem (by decide)
  have hsecondBar : bar ∉ second := hsecond.notMem (by decide)
  exact hreplace (by decide) hsecondBar (hreplace (by decide) hfirstBar
    (hreplace hsecond.nonempty (by decide) (hreplace hfirst.nonempty
      (by decide) h)))

theorem bar_notMem_swapField (hfirst : IsNumber first)
    (hsecond : IsNumber second) {field : CharString} (h : bar ∉ field) :
    bar ∉ swapField first second field := by
  rw [swapField]
  split
  · exact hsecond.notMem (by decide)
  split
  · exact hfirst.notMem (by decide)
  · exact h

theorem intercalate_map_inj {fields : List CharString}
    {f g : CharString -> CharString} (hne : fields ≠ [])
    (hf : forall field, field ∈ fields -> bar ∉ f field)
    (hg : forall field, field ∈ fields -> bar ∉ g field) :
    [bar].intercalate (fields.map f) = [bar].intercalate (fields.map g) ↔
      forall field, field ∈ fields -> f field = g field := by
  rw [← List.map_inj_left]
  constructor
  · intro h
    have hsplit := congrArg (List.splitOn bar) h
    rw [List.splitOn_intercalate bar, List.splitOn_intercalate bar] at hsplit
    · exact hsplit
    · exact List.forall_mem_map.mpr hg
    · simpa using hne
    · exact List.forall_mem_map.mpr hf
    · simpa using hne
  · intro h
    rw [h]

theorem message_iff (hfirst : IsNumber first) (hsecond : IsNumber second)
    (hne : first ≠ second) (message : CharString) :
    (convertText first second message = swapFields first second message ∧
      convertText second first (swapFields first second message) = message) ↔
      forall field, field ∈ message.splitOn bar ->
        FieldFit first second field := by
  have hbar : forall field, field ∈ message.splitOn bar -> bar ∉ field :=
    fun field h => notMem_of_mem_splitOn h
  have hnonempty : message.splitOn bar ≠ [] := List.splitOn_ne_nil bar message
  have hwhole : [bar].intercalate (message.splitOn bar) = message :=
    List.intercalate_splitOn bar
  have hthere : convertText first second message =
      swapFields first second message ↔
        forall field, field ∈ message.splitOn bar ->
          convertText first second field = swapField first second field := by
    rw [← intercalate_map_inj hnonempty
      (fun field h => bar_notMem_convertText hfirst hsecond (hbar field h))
      fun field h => bar_notMem_swapField hfirst hsecond (hbar field h),
      ← convertText_intercalate hfirst hsecond, hwhole, swapFields]
  have hback : convertText second first (swapFields first second message) =
      message ↔
        forall field, field ∈ message.splitOn bar ->
          convertText second first (swapField first second field) = field := by
    rw [← intercalate_map_inj (g := fun field => field) hnonempty
      (fun field h => bar_notMem_convertText hsecond hfirst
        (bar_notMem_swapField hfirst hsecond (hbar field h))) hbar,
      List.map_id', hwhole, swapFields, convertText_intercalate hsecond hfirst,
      List.map_map]
    rfl
  rw [hthere, hback, ← forall₂_and]
  exact forall₂_congr fun field _ => fieldFit_iff hfirst hsecond hne

end Messages

theorem setString_setString (packet : Record) (name : String)
    (val val' : CharString) :
    (packet.setString name val).setString name val' =
      packet.setString name val' := by
  rw [Record.setString, Record.setString, Function.update_idem]
  rfl

theorem setString_self (packet : Record) (name : String) :
    packet.setString name (packet.string name) = packet := by
  cases packet
  rw [Record.setString, Function.update_eq_self]

theorem setString_inj {packet : Record} {name : String}
    {val val' : CharString} :
    packet.setString name val = packet.setString name val' ↔ val = val' := by
  constructor
  · intro h
    have hstring := congrArg (fun r : Record => r.string name) h
    simpa using hstring
  · intro h
    rw [h]

/--
Handles are swapped exactly in a party message if no field of it has a
placeholder, and none has one of the two texts in it unless it is one of them,
where the text of the server's handle may not have to do with the other one.
-/
theorem swapsExactly_iff (localPlayerClientHandle localPlayerServerHandle :
    UInt32) (packet : Record)
    (htype : CHAT_PARTY_SYSTEM ≤ packet.integer "type")
    (hne : localPlayerClientHandle ≠ localPlayerServerHandle) :
    SwapsExactly localPlayerClientHandle localPlayerServerHandle packet ↔
      forall field, field ∈ (packet.string "message").splitOn bar ->
        FieldFit (handleText localPlayerClientHandle)
          (handleText localPlayerServerHandle) field := by
  have hnumbers : handleText localPlayerClientHandle ≠
      handleText localPlayerServerHandle :=
    fun heq => hne (handleText_injective heq)
  rw [← message_iff (isNumber_handleText localPlayerClientHandle)
    (isNumber_handleText localPlayerServerHandle) hnumbers]
  have hconvert : forall client server (message : CharString),
      convertChat client server (packet.setString "message" message) =
        packet.setString "message"
          (convertText (handleText client) (handleText server) message) := by
    intro client server message
    rw [convertChat, Record.setString_integer, if_pos htype,
      setString_setString, Record.string_setString, if_pos rfl]
  have hself : packet.setString "message" (packet.string "message") =
      packet := setString_self packet "message"
  have hthere := hconvert localPlayerClientHandle localPlayerServerHandle
    (packet.string "message")
  rw [hself] at hthere
  constructor
  · intro h
    have hswapped := h.there
    rw [hthere, setString_inj] at hswapped
    have hback := h.back
    rw [h.there, hconvert] at hback
    exact ⟨hswapped, setString_inj.mp (hback.trans hself.symm)⟩
  · intro h
    rcases h with ⟨hswapped, hback⟩
    rw [hswapped] at hthere
    refine ⟨hthere, ?_⟩
    rw [hthere, hconvert, hback, hself]

/-- A member that the server knows as 9 is the client's player 5. -/
theorem swapsExactly_memberInfo :
    SwapsExactly 5 9 (partyMessage (ascii "MINFO|9|a|")) ↔
      forall field, field ∈
        ((partyMessage (ascii "MINFO|9|a|")).string "message").splitOn bar ->
          FieldFit (handleText 5) (handleText 9) field :=
  swapsExactly_iff 5 9 (partyMessage (ascii "MINFO|9|a|")) (by decide)
    (by decide)

/-- The level of a member has the digit that is the player's handle. -/
theorem not_swapsExactly_level :
    ¬SwapsExactly 5 9 (partyMessage (ascii "CHANGE_LEVEL|a|15")) := by
  intro h
  have hthere := congrArg (fun r : Record => r.string "message") h.there
  exact absurd hthere (by decide)

end Mirror
end Rzu
