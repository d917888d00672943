import Rzu.Library.ReplaceAll
import Rzu.Mirror.PartyChat

/-!
# Handles in party messages

Party messages name players by their handles in decimal.  For the client they
are exchanged in the text, with placeholders in between.
-/

namespace Rzu
namespace Mirror

open Library
open Library.Numeral
open Core
open Packet

def CLIENTHNDL : CharString := ascii "CLIENTHNDL"
def SERVERHNDL : CharString := ascii "SERVERHNDL"

def stringReplaceAll (str source target : CharString) : CharString :=
  replaceAll source target str

def convertText (client server : CharString) (message : CharString) :
    CharString :=
  let withClient := stringReplaceAll message client CLIENTHNDL
  let withBoth := stringReplaceAll withClient server SERVERHNDL
  let withoutServer := stringReplaceAll withBoth SERVERHNDL client
  stringReplaceAll withoutServer CLIENTHNDL server

/-- `std::to_string` of a handle. -/
def handleText (handle : UInt32) : CharString := printUnsigned handle.toNat

/-- What `sendServerPacketToClient` makes of a chat packet. -/
def convertChat (localPlayerClientHandle localPlayerServerHandle : UInt32)
    (packet : Record) : Record :=
  if CHAT_PARTY_SYSTEM ≤ packet.integer "type" then
    packet.setString "message"
      (convertText (handleText localPlayerClientHandle)
        (handleText localPlayerServerHandle) (packet.string "message"))
  else packet

/-!
## Texts with placeholders
-/

/-- A character, or a placeholder as a whole. -/
inductive Token where
  | char (c : UInt8)
  | client
  | server
deriving DecidableEq

namespace Token

def render : Token -> CharString
  | char c => [c]
  | client => CLIENTHNDL
  | server => SERVERHNDL

/-- What becomes of a token when its placeholder is replaced. -/
def expand (forClient forServer : CharString) : Token -> CharString
  | char c => [c]
  | client => forClient
  | server => forServer

def isLetter : Token -> Bool
  | char c => !isDigit c
  | _ => false

def isMark : Token -> Bool
  | char _ => false
  | _ => true

end Token

open Token

/-- No characters happen to make a placeholder. -/
def Normal (tokens : List Token) : Prop :=
  ¬CLIENTHNDL.map char <:+: tokens ∧ ¬SERVERHNDL.map char <:+: tokens

/-- The occurrences of two texts, those of the first one first. -/
def marked (first second : CharString) (tokens : List Token) : List Token :=
  replaceAll (second.map char) [server]
    (replaceAll (first.map char) [client] tokens)

structure IsNumber (text : CharString) : Prop where
  nonempty : text ≠ []
  digits : forall c, c ∈ text -> isDigit c = true

theorem isNumber_handleText (handle : UInt32) :
    IsNumber (handleText handle) where
  nonempty := printUnsigned_ne_nil handle.toNat
  digits _ h := isDigit_of_mem_printUnsigned h

theorem handleText_injective {handle handle' : UInt32}
    (h : handleText handle = handleText handle') : handle = handle' := by
  have hvalue := congrArg magnitude h
  rw [handleText, handleText, magnitude_printUnsigned,
    magnitude_printUnsigned] at hvalue
  exact UInt32.toNat_inj.mp hvalue

section Tokens

variable {text u : CharString} {tokens : List Token}

theorem flatMap_render_char (text : CharString) :
    (text.map char).flatMap render = text := by
  induction text with
  | nil => rfl
  | cons c text ih =>
      rw [List.map_cons, List.flatMap_cons, ih]
      rfl

theorem client_notMem_char (text : CharString) : client ∉ text.map char := by
  simp

theorem server_notMem_char (text : CharString) : server ∉ text.map char := by
  simp

theorem map_char_ne_nil (h : text ≠ []) : text.map char ≠ [] := by
  simpa using h

theorem render_ne_nil (token : Token) : token.render ≠ [] := by
  cases token with
  | char c => exact List.cons_ne_nil _ _
  | client => decide
  | server => decide

theorem prefix_of_prefix_render (hclient : 67 ∉ u) (hserver : 83 ∉ u)
    (h : u <+: tokens.flatMap render) : u.map char <+: tokens := by
  induction u generalizing tokens with
  | nil => exact List.nil_prefix
  | cons c u ih =>
      rw [List.mem_cons, not_or] at hclient hserver
      cases tokens with
      | nil =>
          rw [List.flatMap_nil] at h
          exact absurd (List.prefix_nil.mp h) (List.cons_ne_nil _ _)
      | cons token tokens =>
          rw [List.flatMap_cons] at h
          cases token with
          | char d =>
              rcases List.cons_prefix_cons.mp h with ⟨rfl, hrest⟩
              exact List.cons_prefix_cons.mpr
                ⟨rfl, ih hclient.right hserver.right hrest⟩
          | client =>
              exact absurd (List.cons_prefix_cons.mp h).left.symm hclient.left
          | server =>
              exact absurd (List.cons_prefix_cons.mp h).left.symm hserver.left

theorem infix_render (h : u.map char <:+: tokens) :
    u <:+: tokens.flatMap render := by
  rcases h with ⟨before, after, heq⟩
  refine ⟨before.flatMap render, after.flatMap render, ?_⟩
  rw [← heq, List.flatMap_append, List.flatMap_append, flatMap_render_char]

theorem closed_render {c : UInt8} (hclient : c ∉ CLIENTHNDL.tail)
    (hserver : c ∉ SERVERHNDL.tail) (u : CharString) :
    Closed render (c :: u) := by
  have hhead : forall later : CharString, c ∉ later ->
      forall v, v <:+ later -> v ≠ [] ->
        forall rest, ¬c :: u <+: v ++ rest := by
    intro later hc v hv hne rest h
    cases v with
    | nil => exact hne rfl
    | cons d v =>
        rw [List.cons_append, List.cons_prefix_cons] at h
        refine hc (hv.subset ?_)
        rw [h.left]
        exact List.mem_cons_self
  intro token d later hrender v hv hne rest
  cases token with
  | char d' =>
      cases hrender
      exact absurd (List.suffix_nil.mp hv) hne
  | client =>
      cases hrender
      exact hhead _ hclient v hv hne rest
  | server =>
      cases hrender
      exact hhead _ hserver v hv hne rest

end Tokens

/-!
## The replacements on tokens
-/

section Numbers

variable {first second text : CharString} {tokens : List Token}

theorem IsNumber.notMem (h : IsNumber text) {c : UInt8}
    (hc : isDigit c = false) : c ∉ text := by
  intro hmem
  rw [h.digits c hmem] at hc
  cases hc

theorem replaceAll_number (h : IsNumber text) (token : Token)
    (tokens : List Token) :
    replaceAll text token.render (tokens.flatMap render) =
      (replaceAll (text.map char) [token] tokens).flatMap render := by
  have hclosed : Closed render ((text.map char).flatMap render) := by
    rw [flatMap_render_char]
    cases htext : text with
    | nil => exact absurd htext h.nonempty
    | cons c u =>
        have hdigit : isDigit c = true := by
          refine h.digits c ?_
          rw [htext]
          exact List.mem_cons_self
        have hletters : forall later : CharString,
            (later.all fun d => !isDigit d) = true -> c ∉ later := by
          intro later hall hmem
          have hc := List.all_eq_true.mp hall c hmem
          rw [hdigit] at hc
          cases hc
        exact closed_render (hletters _ (by decide)) (hletters _ (by decide)) u
  have hrender : replaceAll ((text.map char).flatMap render)
      ([token].flatMap render) (tokens.flatMap render) =
        (replaceAll (text.map char) [token] tokens).flatMap render := by
    refine replaceAll_render (map_char_ne_nil h.nonempty) render_ne_nil
      hclosed fun later _ hfront => ?_
    rw [flatMap_render_char] at hfront
    exact prefix_of_prefix_render (h.notMem (by decide))
      (h.notMem (by decide)) hfront
  rw [flatMap_render_char, List.flatMap_singleton] at hrender
  exact hrender

theorem replaceAll_placeholder (placeholder : Token) {c : UInt8}
    {u : CharString} (hrender : placeholder.render = c :: u)
    (hclient : c ∉ CLIENTHNDL.tail) (hserver : c ∉ SERVERHNDL.tail)
    (htail : 67 ∉ u ∧ 83 ∉ u)
    (hother : forall token, token.render.head? = some c ->
      token = placeholder ∨ token = char c)
    (hnormal : ¬placeholder.render.map char <:+: tokens)
    (replacement : CharString) :
    replaceAll placeholder.render replacement (tokens.flatMap render) =
      (replaceAll [placeholder] (replacement.map char) tokens).flatMap
        render := by
  have hsource : [placeholder].flatMap render = placeholder.render :=
    List.flatMap_singleton render placeholder
  have hclosed : Closed render ([placeholder].flatMap render) := by
    rw [hsource, hrender]
    exact closed_render hclient hserver u
  have hall : replaceAll ([placeholder].flatMap render)
      ((replacement.map char).flatMap render) (tokens.flatMap render) =
        (replaceAll [placeholder] (replacement.map char) tokens).flatMap
          render := by
    refine replaceAll_render (List.cons_ne_nil _ _) render_ne_nil hclosed
      fun later hlater hfront => ?_
    rw [hsource] at hfront
    cases later with
    | nil =>
        rw [List.flatMap_nil] at hfront
        exact absurd (List.prefix_nil.mp hfront) (render_ne_nil placeholder)
    | cons token later =>
        rw [List.flatMap_cons, hrender] at hfront
        have hhead : token.render.head? = some c := by
          cases htoken : token.render with
          | nil => exact absurd htoken (render_ne_nil token)
          | cons d v =>
              rw [htoken, List.cons_append, List.cons_prefix_cons] at hfront
              rw [← hfront.left]
              rfl
        rcases hother token hhead with rfl | rfl
        · exact List.cons_prefix_cons.mpr ⟨rfl, List.nil_prefix⟩
        · have hrest : u <+: later.flatMap render :=
            (List.cons_prefix_cons.mp hfront).right
          have hchars := prefix_of_prefix_render htail.left htail.right hrest
          refine absurd ?_ hnormal
          rw [hrender, List.map_cons]
          have hwhole : char c :: u.map char <+: char c :: later :=
            List.cons_prefix_cons.mpr ⟨rfl, hchars⟩
          exact hwhole.isInfix.trans hlater.isInfix
  rw [hsource, flatMap_render_char] at hall
  exact hall

theorem replaceAll_SERVERHNDL (hnormal : Normal tokens)
    (replacement : CharString) :
    replaceAll SERVERHNDL replacement (tokens.flatMap render) =
      (replaceAll [server] (replacement.map char) tokens).flatMap render := by
  refine replaceAll_placeholder server rfl (by decide)
    (by decide) (by decide) (fun token hhead => ?_) hnormal.right replacement
  cases token with
  | char d =>
      cases hhead
      exact Or.inr rfl
  | client => cases hhead
  | server => exact Or.inl rfl

theorem replaceAll_CLIENTHNDL (hnormal : Normal tokens)
    (replacement : CharString) :
    replaceAll CLIENTHNDL replacement (tokens.flatMap render) =
      (replaceAll [client] (replacement.map char) tokens).flatMap render := by
  refine replaceAll_placeholder client rfl (by decide)
    (by decide) (by decide) (fun token hhead => ?_) hnormal.left replacement
  cases token with
  | char d =>
      cases hhead
      exact Or.inr rfl
  | client => exact Or.inl rfl
  | server => cases hhead

theorem Normal.mark (h : Normal tokens) {source : List Token} {token : Token}
    (hsource : source ≠ []) (htoken : token.isMark = true) :
    Normal (replaceAll source [token] tokens) := by
  have hdisjoint : forall text : CharString,
      forall x, x ∈ [token] -> x ∉ text.map char := by
    intro text x hx hmem
    rw [List.mem_singleton.mp hx] at hmem
    rcases List.mem_map.mp hmem with ⟨c, -, rfl⟩
    cases htoken
  constructor
  · exact fun hpart => h.left (infix_of_infix_replaceAll hsource
      (List.cons_ne_nil _ _) (by decide) (hdisjoint _) hpart)
  · exact fun hpart => h.right (infix_of_infix_replaceAll hsource
      (List.cons_ne_nil _ _) (by decide) (hdisjoint _) hpart)

theorem Normal.number (h : Normal tokens) {token : Token}
    (htext : IsNumber text) :
    Normal (replaceAll [token] (text.map char) tokens) := by
  have hdisjoint : forall letters : CharString,
      (letters.all fun c => !isDigit c) = true ->
        forall x, x ∈ text.map char -> x ∉ letters.map char := by
    intro letters hall x hx hmem
    rcases List.mem_map.mp hx with ⟨c, hc, rfl⟩
    rcases List.mem_map.mp hmem with ⟨d, hd, heq⟩
    injection heq with heq
    have hletter := List.all_eq_true.mp hall d hd
    rw [heq, htext.digits c hc] at hletter
    cases hletter
  constructor
  · exact fun hpart => h.left (infix_of_infix_replaceAll
      (List.cons_ne_nil _ _) (map_char_ne_nil htext.nonempty) (by decide)
      (hdisjoint _ (by decide)) hpart)
  · exact fun hpart => h.right (infix_of_infix_replaceAll
      (List.cons_ne_nil _ _) (map_char_ne_nil htext.nonempty) (by decide)
      (hdisjoint _ (by decide)) hpart)

theorem fill_token (first second : CharString) (token : Token) :
    ((if token = server then first.map char else [token]).flatMap fun x =>
      (if x = client then second.map char else [x]).flatMap render) =
        expand second first token := by
  cases token with
  | char c => rfl
  | client =>
      rw [if_neg (by decide), List.flatMap_singleton, if_pos rfl,
        flatMap_render_char]
      rfl
  | server =>
      rw [if_pos rfl]
      simp [List.flatMap_map, render, expand]

theorem convertText_render (hfirst : IsNumber first)
    (hsecond : IsNumber second) (hnormal : Normal tokens) :
    convertText first second (tokens.flatMap render) =
      (marked first second tokens).flatMap (expand second first) := by
  have hmarked : Normal (marked first second tokens) :=
    (hnormal.mark (map_char_ne_nil hfirst.nonempty) rfl).mark
      (map_char_ne_nil hsecond.nonempty) rfl
  have hclient := replaceAll_number hfirst client tokens
  have hserver := replaceAll_number hsecond server
    (replaceAll (first.map char) [client] tokens)
  rw [convertText, stringReplaceAll, stringReplaceAll, stringReplaceAll,
    stringReplaceAll]
  change replaceAll CLIENTHNDL second (replaceAll SERVERHNDL first
    (replaceAll second server.render
      (replaceAll first client.render (tokens.flatMap render)))) = _
  rw [hclient, hserver, ← marked, replaceAll_SERVERHNDL hmarked,
    replaceAll_CLIENTHNDL (hmarked.number hfirst), replaceAll_mark,
    replaceAll_mark, List.flatMap_assoc, List.flatMap_assoc]
  congr 1
  funext token
  exact fill_token first second token

end Numbers

end Mirror
end Rzu
