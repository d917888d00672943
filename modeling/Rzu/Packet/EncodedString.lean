import Mathlib.Data.List.TakeWhile
import Rzu.Library.Json
import Rzu.Packet.MessageBuffer

/-!
# Strings in packet logs

`writeEncodedString` escapes a string into a local buffer of fixed size.  A
character is taken as long as one byte is free before the end of the buffer,
and its escape may need more.
-/

namespace Rzu
namespace Packet

open Library

namespace JSONWriter

/-- `sizeof(newString)` -/
def bufferSize : Nat := 2048

/-- The local buffer, of which `currentSize` characters are in use. -/
structure EncodeBuffer where
  newString : List Char
  sized : newString.length = bufferSize
  currentSize : Nat

namespace EncodeBuffer

/-- `newString[i] = c`, none when that is outside of the buffer. -/
def store (b : EncodeBuffer) (i : Nat) (c : Char) : Option EncodeBuffer :=
  if i < b.newString.length then
    some { b with
      newString := b.newString.set i c
      sized := by rw [List.length_set, b.sized] }
  else none

/-- `newString[currentSize++] = c` -/
def append (b : EncodeBuffer) (c : Char) : Option EncodeBuffer :=
  (b.store b.currentSize c).map fun b =>
    { b with currentSize := b.currentSize + 1 }

def storeAll : List Char -> Nat -> EncodeBuffer -> Option EncodeBuffer
  | [], _, b => some b
  | c :: text, i, b => do
      let b <- b.store i c
      storeAll text (i + 1) b

/--
`snprintf` at `currentSize` with the room that is left.  It stores what fits
together with a terminator, and returns the length of the whole text.
-/
def snprintf (b : EncodeBuffer) (text : List Char) : Option EncodeBuffer := do
  let room := bufferSize - b.currentSize
  let stored <-
    if room = 0 then some b
    else storeAll (text.take (room - 1) ++ ['\x00']) b.currentSize b
  pure { stored with currentSize := b.currentSize + text.length }

end EncodeBuffer

/-- The text of `"\\u%04x"`. -/
def unicodeEscape (c : UInt8) : List Char :=
  '\\' :: 'u' :: (Nat.toDigits 16 c.toNat).leftpad 4 '0'

/-- Visible characters that are copied. -/
def isNormal (c : UInt8) : Bool :=
  c ≥ 0x20 && c < 0x7F && c != 0x22 && c != 0x5C

/-- One pass of the loop, for a character that is not the terminator. -/
def encodeChar (c : UInt8) (b : EncodeBuffer) : Option EncodeBuffer :=
  if isNormal c then b.append (Char.ofUInt8 c)
  else if c = 0x22 ∨ c = 0x5C then do
    let b <- b.append '\\'
    b.append (Char.ofUInt8 c)
  else b.snprintf (unicodeEscape c)

/-- The loop; what is behind the characters of the source is its terminator. -/
def encodeLoop : CharString -> EncodeBuffer -> Option EncodeBuffer
  | [], b => some b
  | c :: source, b =>
      if b.currentSize < bufferSize - 1 then
        if c = 0 then some b
        else do
          let b <- encodeChar c b
          encodeLoop source b
      else some b

/--
The text that is written for a string, none when something was stored outside
of the buffer.  Nothing is known of what the buffer holds at first.
-/
def writeEncodedString (memory : EncodeBuffer) (source : CharString) :
    Option (List Char) := do
  let b <- encodeLoop source { memory with currentSize := 0 }
  let b <- b.store b.currentSize '\x00'
  pure ('"' :: b.newString.takeWhile (· ≠ '\x00') ++ ['"'])

/-!
## Storing
-/

namespace EncodeBuffer

theorem store_eq_none {b : EncodeBuffer} {i : Nat} (c : Char)
    (h : bufferSize ≤ i) : b.store i c = none := by
  rw [store, if_neg]
  rw [b.sized]
  exact Nat.not_lt.mpr h

theorem exists_store (b : EncodeBuffer) {i : Nat} (c : Char)
    (h : i < bufferSize) :
    exists b', b.store i c = some b' ∧ b'.currentSize = b.currentSize ∧
      b'.newString.take (i + 1) = b.newString.take i ++ [c] ∧
      forall k, k ≤ i -> b'.newString.take k = b.newString.take k := by
  have hlt : i < b.newString.length := by
    rw [b.sized]
    exact h
  refine ⟨_, if_pos hlt, rfl, ?_, ?_⟩
  · rw [List.take_add_one, List.take_set_of_le (Nat.le_refl i),
      List.getElem?_set_self hlt]
    rfl
  · intro k hk
    exact List.take_set_of_le hk

theorem exists_storeAll (text : List Char) {i : Nat} (b : EncodeBuffer)
    (h : i + text.length ≤ bufferSize) :
    exists b', storeAll text i b = some b' ∧
      b'.currentSize = b.currentSize ∧
      b'.newString.take (i + text.length) = b.newString.take i ++ text ∧
      forall k, k ≤ i -> b'.newString.take k = b.newString.take k := by
  induction text generalizing i b with
  | nil =>
      refine ⟨b, rfl, rfl, ?_, fun _ _ => rfl⟩
      rw [List.append_nil]
      rfl
  | cons c text ih =>
      rw [List.length_cons] at h
      rcases b.exists_store c (i := i) (by lia) with
        ⟨first, hfirst, hsize, htaken, hkept⟩
      rcases ih (i := i + 1) first (by lia) with
        ⟨last, hlast, hsize', htaken', hkept'⟩
      refine ⟨last, ?_, hsize'.trans hsize, ?_, ?_⟩
      · rw [storeAll, hfirst]
        exact hlast
      · rw [htaken] at htaken'
        rw [List.length_cons, Nat.add_comm text.length 1, ← Nat.add_assoc,
          htaken', List.append_assoc]
        rfl
      · intro k hk
        rw [hkept' k (Nat.le_succ_of_le hk), hkept k hk]

def held (b : EncodeBuffer) : List Char := b.newString.take b.currentSize

theorem exists_append (b : EncodeBuffer) (c : Char)
    (h : b.currentSize < bufferSize) :
    exists b', b.append c = some b' ∧ b'.currentSize = b.currentSize + 1 ∧
      b'.held = b.held ++ [c] := by
  rcases b.exists_store c h with ⟨stored, hstored, hsize, htaken, _⟩
  refine ⟨{ stored with currentSize := stored.currentSize + 1 }, ?_, ?_, ?_⟩
  · rw [append, hstored]
    rfl
  · exact congrArg (· + 1) hsize
  · change stored.newString.take (stored.currentSize + 1) = _
    rw [hsize]
    exact htaken

theorem exists_snprintf (b : EncodeBuffer) (text : List Char)
    (h : b.currentSize < bufferSize) :
    exists b', b.snprintf text = some b' ∧
      b'.currentSize = b.currentSize + text.length ∧
      (b'.currentSize < bufferSize -> b'.held = b.held ++ text) := by
  have hroom : bufferSize - b.currentSize ≠ 0 := by lia
  rcases b.exists_storeAll (i := b.currentSize)
      (text.take (bufferSize - b.currentSize - 1) ++ ['\x00']) (by
        rw [List.length_append, List.length_take, List.length_singleton]
        lia) with
    ⟨stored, hstored, _, htaken, _⟩
  refine ⟨{ stored with currentSize := b.currentSize + text.length },
    ?_, rfl, ?_⟩
  · unfold snprintf
    dsimp only
    rw [if_neg hroom, hstored]
    rfl
  · intro hfits
    change b.currentSize + text.length < bufferSize at hfits
    have hwhole : text.take (bufferSize - b.currentSize - 1) = text :=
      List.take_of_length_le (by lia)
    rw [hwhole, List.length_append, List.length_singleton] at htaken
    change stored.newString.take (b.currentSize + text.length) =
      b.newString.take b.currentSize ++ text
    have hless := congrArg (List.take (b.currentSize + text.length)) htaken
    have hlength : (b.newString.take b.currentSize ++ text).length =
        b.currentSize + text.length := by
      rw [List.length_append, List.length_take, b.sized]
      lia
    rw [List.take_take, Nat.min_eq_left (by lia), ← List.append_assoc,
      List.take_left' hlength] at hless
    exact hless

end EncodeBuffer

/-!
## Escaping
-/

def escapeOf (c : UInt8) : List Char :=
  if isNormal c then [Char.ofUInt8 c]
  else if c = 0x22 ∨ c = 0x5C then ['\\', Char.ofUInt8 c]
  else unicodeEscape c

theorem exists_encodeChar (c : UInt8) (b : EncodeBuffer)
    (h : b.currentSize < bufferSize - 1) :
    exists b', encodeChar c b = some b' ∧
      b'.currentSize = b.currentSize + (escapeOf c).length ∧
      (b'.currentSize < bufferSize -> b'.held = b.held ++ escapeOf c) := by
  unfold encodeChar escapeOf
  split
  · rcases b.exists_append (Char.ofUInt8 c) (by lia) with
      ⟨b', hsome, hsize, hheld⟩
    exact ⟨b', hsome, hsize, fun _ => hheld⟩
  · split
    · rcases b.exists_append '\\' (by lia) with ⟨first, hfirst, hsize, hheld⟩
      rcases first.exists_append (Char.ofUInt8 c) (by lia) with
        ⟨last, hlast, hsize', hheld'⟩
      refine ⟨last, ?_, ?_, fun _ => ?_⟩
      · rw [hfirst]
        exact hlast
      · rw [hsize', hsize]
        rfl
      · rw [hheld', hheld, List.append_assoc]
        rfl
    · exact b.exists_snprintf (unicodeEscape c) (by lia)

def escapedText (source : CharString) : List Char := source.flatMap escapeOf

/-- No escape goes beyond the end of the buffer from within it. -/
def KeepsRoom (size : Nat) (source : CharString) : Prop :=
  forall k, k < source.length ->
    size + (escapedText (source.take k)).length < bufferSize - 1 ->
      size + (escapedText (source.take (k + 1))).length ≤ bufferSize - 1

theorem escapedText_cons (c : UInt8) (source : CharString) :
    escapedText (c :: source) = escapeOf c ++ escapedText source :=
  List.flatMap_cons

theorem KeepsRoom.tail {size : Nat} {c : UInt8} {source : CharString}
    (h : KeepsRoom size (c :: source)) :
    KeepsRoom (size + (escapeOf c).length) source := by
  intro k hk hsize
  have hnext := h (k + 1) (Nat.succ_lt_succ hk)
  rw [List.take_succ_cons, List.take_succ_cons, escapedText_cons,
    escapedText_cons, List.length_append, List.length_append] at hnext
  lia

theorem KeepsRoom.head {size : Nat} {c : UInt8} {source : CharString}
    (h : KeepsRoom size (c :: source)) (hsize : size < bufferSize - 1) :
    size + (escapeOf c).length ≤ bufferSize - 1 := by
  have hfirst := h 0 (Nat.zero_lt_succ _) (by simpa [escapedText] using hsize)
  rw [List.take_succ_cons, List.take_zero, escapedText_cons,
    List.length_append] at hfirst
  simpa [escapedText] using hfirst

theorem keepsRoom_cons {size : Nat} {c : UInt8} {source : CharString}
    (hsize : size + (escapeOf c).length ≤ bufferSize - 1)
    (h : KeepsRoom (size + (escapeOf c).length) source) :
    KeepsRoom size (c :: source) := by
  intro k hk hbefore
  cases k with
  | zero =>
      rw [List.take_succ_cons, List.take_zero, escapedText_cons,
        List.length_append]
      simpa [escapedText] using hsize
  | succ k =>
      rw [List.take_succ_cons, escapedText_cons, List.length_append] at hbefore
      have hlater := h k (Nat.lt_of_succ_lt_succ hk) (by lia)
      rw [List.take_succ_cons, escapedText_cons, List.length_append]
      lia

def chars (source : CharString) : CharString := source.takeWhile (· ≠ 0)

theorem chars_cons {c : UInt8} (h : c ≠ 0) (source : CharString) :
    chars (c :: source) = c :: chars source :=
  List.takeWhile_cons_of_pos (decide_eq_true h)

theorem chars_zero (source : CharString) : chars (0 :: source) = [] := rfl

/-- The first characters whose escapes fit together. -/
def fitting : Nat -> CharString -> CharString
  | _, [] => []
  | size, c :: source =>
      if size + (escapeOf c).length ≤ bufferSize - 1 then
        c :: fitting (size + (escapeOf c).length) source
      else []

theorem fitting_isPrefix (size : Nat) (source : CharString) :
    fitting size source <+: source := by
  induction source generalizing size with
  | nil => exact List.nil_prefix
  | cons c source ih =>
      rw [fitting]
      split
      · rcases ih (size + (escapeOf c).length) with ⟨rest, hrest⟩
        exact ⟨rest, congrArg (c :: ·) hrest⟩
      · exact List.nil_prefix

theorem escapeOf_length_pos (c : UInt8) : 0 < (escapeOf c).length := by
  unfold escapeOf
  split
  · exact Nat.zero_lt_succ 0
  · split
    · exact Nat.zero_lt_succ 1
    · exact Nat.zero_lt_succ _

theorem fitting_full (source : CharString) :
    fitting (bufferSize - 1) source = [] := by
  cases source with
  | nil => rfl
  | cons c source =>
      have hpos := escapeOf_length_pos c
      rw [fitting, if_neg (by lia)]

theorem encodeLoop_full (source : CharString) {b : EncodeBuffer}
    (h : bufferSize - 1 ≤ b.currentSize) : encodeLoop source b = some b := by
  cases source with
  | nil => rfl
  | cons c source => rw [encodeLoop, if_neg (Nat.not_lt.mpr h)]

/--
The loop always comes to its end.  It takes the escapes of whole characters if
there is room, and otherwise goes beyond the last character of the buffer.
-/
theorem encodeLoop_spec (source : CharString) (b : EncodeBuffer)
    (h : b.currentSize ≤ bufferSize - 1) :
    exists b', encodeLoop source b = some b' ∧
      (KeepsRoom b.currentSize (chars source) ->
        b'.currentSize ≤ bufferSize - 1 ∧
          b'.held =
            b.held ++ escapedText (fitting b.currentSize (chars source))) ∧
      (¬KeepsRoom b.currentSize (chars source) ->
        bufferSize ≤ b'.currentSize) := by
  induction source generalizing b with
  | nil =>
      refine ⟨b, rfl, fun _ => ⟨h, (List.append_nil _).symm⟩, ?_⟩
      intro hnot
      exact absurd (fun k hk => absurd hk (Nat.not_lt_zero k)) hnot
  | cons c source ih =>
      rw [encodeLoop]
      by_cases hroom : b.currentSize < bufferSize - 1
      · rw [if_pos hroom]
        by_cases hzero : c = 0
        · rw [if_pos hzero, hzero, chars_zero]
          refine ⟨b, rfl, fun _ => ⟨h, (List.append_nil _).symm⟩, ?_⟩
          intro hnot
          exact absurd (fun k hk => absurd hk (Nat.not_lt_zero k)) hnot
        · rw [if_neg hzero, chars_cons hzero]
          rcases exists_encodeChar c b hroom with ⟨next, hnext, hsize, hheld⟩
          rw [hnext]
          by_cases hfits : next.currentSize ≤ bufferSize - 1
          · rcases ih next hfits with ⟨last, hlast, hkept, hlost⟩
            rw [hsize] at hkept hlost hfits
            refine ⟨last, hlast, ?_, ?_⟩
            · intro hkeeps
              rcases hkept hkeeps.tail with ⟨hle, hlastHeld⟩
              refine ⟨hle, ?_⟩
              rw [hlastHeld, hheld (by rw [hsize]; lia), fitting,
                if_pos hfits, escapedText_cons, List.append_assoc]
            · intro hnot
              apply hlost
              intro hkeeps
              exact hnot (keepsRoom_cons hfits hkeeps)
          · refine ⟨next, encodeLoop_full source (by lia), ?_, ?_⟩
            · intro hkeeps
              rw [hsize] at hfits
              exact absurd (hkeeps.head hroom) hfits
            · intro _
              lia
      · have hfull : b.currentSize = bufferSize - 1 := by lia
        rw [if_neg hroom, hfull, fitting_full]
        refine ⟨b, rfl, fun _ => ⟨h, (List.append_nil _).symm⟩, ?_⟩
        intro hnot
        exact absurd (fun k _ hlt => absurd hlt (by lia)) hnot

/-!
## Literals
-/

theorem ofNat_toNat (c : UInt8) : Char.ofNat c.toNat = Char.ofUInt8 c := by
  have hlt := c.toNat_lt
  have hvalid : c.toNat.isValidChar := Or.inl (by lia)
  rw [Char.ofNat, dif_pos hvalid]
  apply Char.ext
  rfl

theorem unescaped_of_isNormal {c : UInt8} (h : isNormal c) :
    Json.Unescaped (Char.ofUInt8 c) := by
  have hall : forall n : Fin 256, isNormal (UInt8.ofNat n.val) = true ->
      Json.Unescaped (Char.ofNat n.val) := by
    decide +kernel
  have hc := hall ⟨c.toNat, c.toNat_lt⟩
  rw [UInt8.ofNat_toNat, ofNat_toNat] at hc
  exact hc h

theorem leftpad_toDigits (c : UInt8) :
    ((Nat.toDigits 16 c.toNat).leftpad 4 '0').length = 4 ∧
      Json.hexNumber 0 ((Nat.toDigits 16 c.toNat).leftpad 4 '0') =
        some c.toNat := by
  have hall : forall n : Fin 256,
      ((Nat.toDigits 16 n.val).leftpad 4 '0').length = 4 ∧
        Json.hexNumber 0 ((Nat.toDigits 16 n.val).leftpad 4 '0') =
          some n.val := by
    decide +kernel
  exact hall ⟨c.toNat, c.toNat_lt⟩

theorem characters_escapeOf (c : UInt8) {text value : List Char}
    (hrest : Json.Characters text value) :
    Json.Characters (escapeOf c ++ text) (Char.ofUInt8 c :: value) := by
  unfold escapeOf
  split
  · rename_i hnormal
    exact Json.Characters.plain (unescaped_of_isNormal hnormal) hrest
  · split
    · rename_i hquote
      have hescaped :
          Json.escaped (Char.ofUInt8 c) = some (Char.ofUInt8 c) := by
        rcases hquote with hquote | hquote
        · rw [hquote]
          rfl
        · rw [hquote]
          rfl
      exact Json.Characters.escape hescaped hrest
    · rcases leftpad_toDigits c with ⟨hlength, hnumber⟩
      have hvalid : c.toNat.isValidChar := Or.inl (by
        have hlt := c.toNat_lt
        lia)
      rw [← ofNat_toNat c]
      exact Json.Characters.unicode hlength hnumber hvalid hrest

theorem characters_escapedText (source : CharString) :
    Json.Characters (escapedText source) (source.map Char.ofUInt8) := by
  induction source with
  | nil => exact Json.Characters.nil
  | cons c source ih =>
      rw [escapedText_cons]
      exact characters_escapeOf c ih

theorem ne_terminator_of_mem {source : CharString}
    (h : forall c, c ∈ source -> c ≠ 0) {d : Char}
    (hd : d ∈ escapedText source) : d ≠ '\x00' := by
  have hall : forall n : Fin 256, n.val ≠ 0 ->
      (escapeOf (UInt8.ofNat n.val)).all (· ≠ '\x00') = true := by
    decide +kernel
  rcases List.mem_flatMap.mp hd with ⟨c, hc, hmem⟩
  have hescape := hall ⟨c.toNat, c.toNat_lt⟩ (by
    intro hzero
    exact h c hc (UInt8.toNat_inj.mp hzero))
  rw [UInt8.ofNat_toNat] at hescape
  exact of_decide_eq_true (List.all_eq_true.mp hescape d hmem)

theorem ne_zero_of_mem_chars {source : CharString} {c : UInt8}
    (h : c ∈ chars source) : c ≠ 0 := by
  have hp := List.mem_takeWhile_imp h
  exact of_decide_eq_true hp

theorem printed_eq {b stored : EncodeBuffer}
    (hstored : b.store b.currentSize '\x00' = some stored)
    (h : forall d, d ∈ b.held -> d ≠ '\x00') :
    stored.newString.takeWhile (· ≠ '\x00') = b.held := by
  have hsize : b.currentSize < bufferSize := by
    by_contra hlarge
    rw [EncodeBuffer.store_eq_none _ (Nat.not_lt.mp hlarge)] at hstored
    cases hstored
  rcases b.exists_store '\x00' hsize with ⟨b', hsome, _, htaken, _⟩
  rw [hstored] at hsome
  cases hsome
  rw [← List.take_append_drop (b.currentSize + 1) stored.newString, htaken,
    List.append_assoc, List.takeWhile_append_of_pos]
  · change b.held ++ List.takeWhile _ ('\x00' :: _) = b.held
    rw [List.takeWhile_cons_of_neg (by decide), List.append_nil]
  · intro d hd
    exact decide_eq_true (h d hd)

/-- The text is a literal of the first whole characters of the string. -/
def EncodesPrefix (memory : EncodeBuffer) (source : CharString) : Prop :=
  exists text whole, writeEncodedString memory source = some text ∧
    whole <+: chars source ∧ Json.Literal text (whole.map Char.ofUInt8)

theorem writeEncodedString_of_keepsRoom (memory : EncodeBuffer)
    {source : CharString} (h : KeepsRoom 0 (chars source)) :
    writeEncodedString memory source =
      some ('"' :: escapedText (fitting 0 (chars source)) ++ ['"']) := by
  rcases encodeLoop_spec source { memory with currentSize := 0 }
      (Nat.zero_le _) with ⟨b, hloop, hkept, _⟩
  rcases hkept h with ⟨hsize, hheld⟩
  have hheld' : b.held = escapedText (fitting 0 (chars source)) := hheld
  have hlast : b.currentSize < bufferSize := by
    have hpos : 0 < bufferSize := by decide
    lia
  rcases b.exists_store '\x00' hlast with ⟨stored, hstored, _⟩
  have hprinted := printed_eq hstored (by
    intro d hd
    rw [hheld'] at hd
    apply ne_terminator_of_mem _ hd
    intro c hc
    exact ne_zero_of_mem_chars ((fitting_isPrefix 0 _).subset hc))
  rw [writeEncodedString, hloop, Option.bind_eq_bind, Option.bind_some,
    hstored]
  change some ('"' :: _ ++ ['"']) = _
  rw [hprinted, hheld']

theorem writeEncodedString_eq_none (memory : EncodeBuffer)
    {source : CharString} (h : ¬KeepsRoom 0 (chars source)) :
    writeEncodedString memory source = none := by
  rcases encodeLoop_spec source { memory with currentSize := 0 }
      (Nat.zero_le _) with ⟨b, hloop, _, hlost⟩
  rw [writeEncodedString, hloop, Option.bind_eq_bind, Option.bind_some,
    EncodeBuffer.store_eq_none _ (hlost h)]
  rfl

theorem length_escapedText_replicate (n : Nat) :
    (escapedText (List.replicate n 0x61)).length = n := by
  induction n with
  | zero => rfl
  | succ n ih =>
      rw [List.replicate_succ, escapedText_cons, List.length_append, ih,
        Nat.add_comm]
      rfl

/--
Strings are written within the buffer exactly when no escape goes beyond its
last character but one from before it.
-/
theorem encodesPrefix_iff_keepsRoom (memory : EncodeBuffer)
    (source : CharString) :
    EncodesPrefix memory source ↔ KeepsRoom 0 (chars source) := by
  constructor
  · rintro ⟨text, whole, hsome, _⟩
    by_contra hnot
    rw [writeEncodedString_eq_none memory hnot] at hsome
    cases hsome
  · intro h
    exact ⟨_, _, writeEncodedString_of_keepsRoom memory h,
      fitting_isPrefix 0 _, _, rfl, characters_escapedText _⟩

theorem not_keepsRoom_letters {n : Nat} (h : n + 2 = bufferSize) :
    ¬KeepsRoom 0 (chars (List.replicate n 0x61 ++ [0x22])) := by
  intro hkeeps
  have hchars : chars (List.replicate n 0x61 ++ [0x22]) =
      List.replicate n 0x61 ++ [0x22] := by
    rw [chars, List.takeWhile_append_of_pos]
    · rfl
    · intro c hc
      rw [List.eq_of_mem_replicate hc]
      rfl
  have hletters : (List.replicate n (0x61 : UInt8)).length = n :=
    List.length_replicate
  have hlength : (List.replicate n 0x61 ++ [0x22] : CharString).length =
      n + 1 := by
    rw [List.length_append, hletters, List.length_singleton]
  rw [hchars] at hkeeps
  have hlast := hkeeps n (by lia) (by
    rw [List.take_left' hletters, length_escapedText_replicate]
    lia)
  have hfront := length_escapedText_replicate n
  have hescape : (List.flatMap escapeOf [0x22]).length = 2 := rfl
  rw [escapedText] at hfront
  rw [List.take_of_length_le (Nat.le_of_eq hlength), escapedText,
    List.flatMap_append, List.length_append, hfront, hescape] at hlast
  lia

/-- The terminator behind such a string is stored outside of the buffer. -/
theorem not_encodesPrefix :
    ¬forall memory source, EncodesPrefix memory source := by
  intro hall
  rcases hall ⟨List.replicate 2048 'x', List.length_replicate, 0⟩
    (List.replicate 2046 0x61 ++ [0x22]) with ⟨text, whole, hsome, _⟩
  rw [writeEncodedString_eq_none _ (not_keepsRoom_letters rfl)] at hsome
  cases hsome

end JSONWriter

end Packet
end Rzu
