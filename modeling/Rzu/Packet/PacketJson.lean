import Rzu.Packet.JSONWriter

/-!
# Well-formed packet logs

The text of a packet is a JSON document that has a member for every field in
force and an element for every element, if every string can be escaped in the
buffer and every floating point number is finite.
-/

namespace Rzu
namespace Packet

open Library

/-!
## Contents
-/

def Kind.json (T : IntType) (kind : Kind) (val : Int) : Json :=
  Json.number (kind.text T val)

/-- The string as far as its escapes fit into the buffer. -/
def stringJson (val : CharString) : Json :=
  Json.string ((JSONWriter.fitting 0 (JSONWriter.chars val)).map
    Char.ofUInt8)

/-- The value of a field that holds no object, none if it is not written. -/
def Metatype.json (name : String) (kind : Kind) (r : Record) :
    Metatype -> Option Json
  | simple type _ _ => some (kind.json type (type.cast (r.integer name)))
  | array _ member n _ =>
      some (Json.array
        (((List.range n).map (r.array name)).map (kind.json member)))
  | dynarray _ member =>
      some (Json.array ((r.vector name).map (kind.json member)))
  | count _ _ _ => none
  | string _ _ => some (stringJson (r.string name))
  | dynstring _ _ => some (stringJson (r.string name))
  | padmarker => none
  | pad _ => none
  | endstring _ _ => some (stringJson (r.string name))
  | endarray _ member =>
      some (Json.array ((r.vector name).map (kind.json member)))

/-- The value of a field that holds objects. -/
def Shape.json (members : Record -> List (List Char × Json)) (name : String)
    (r : Record) : Shape -> Json
  | simple _ => Json.object (members (r.object name))
  | shape =>
      Json.array ((shape.items name r).map fun item =>
        Json.object (members item))

/-- The members for the fields in force, in order. -/
def Description.members (version : Version) :
    Description -> Record -> List (List Char × Json)
  | nil, _ => []
  | field name cond metatype kind rest, r =>
      (if cond version r then
        (metatype.json name kind r).toList.map fun value =>
          (name.toList, value)
      else []) ++ rest.members version r
  | object name cond shape type rest, r =>
      (if cond version r then
        [(name.toList, shape.json (fun item => type.members version item)
          name r)]
      else []) ++ rest.members version r

/-- With the identifier of a packet. -/
def Description.json (version : Version) (packetId : Option UInt16)
    (type : Description) (r : Record) : Json :=
  Json.object
    (packetId.toList.map (fun id =>
      ("id".toList, Json.number (Nat.toDigits 10 id.toNat))) ++
        type.members version r)

/-!
## Items of lists and objects
-/

namespace JSONWriter

/-- The comma that comes before another item. -/
def comma (w : JSONWriter) : List Char := if w.newList then [] else [',']

/--
A function that writes one item: a comma if one is due, the item, and nothing
else but blanks.
-/
def Adds (write : JSONWriter -> Option JSONWriter)
    (spells : List Char -> Prop) : Prop :=
  forall w, exists w' between text, write w = some w' ∧
    w'.json = w.json ++ w.comma ++ between ++ text ∧ Json.Blank between ∧
      spells text ∧ w'.newList = false ∧ w'.depth = w.depth ∧
        w'.compact = w.compact

theorem blank_indent (depth : Nat) :
    Json.Blank ('\n' :: List.replicate depth '\t') := by
  intro c hc
  rcases List.mem_cons.mp hc with hnewline | htab
  · exact Or.inr (Or.inr (Or.inl hnewline))
  · exact Or.inr (Or.inl (List.eq_of_mem_replicate htab))

theorem blank_nil : Json.Blank [] := by
  intro c hc
  cases hc

theorem blank_append {front back : List Char} (hfront : Json.Blank front)
    (hback : Json.Blank back) : Json.Blank (front ++ back) := by
  intro c hc
  rcases List.mem_append.mp hc with h | h
  · exact hfront c h
  · exact hback c h

theorem blank_space : Json.Blank [' '] := by
  intro c hc
  exact Or.inl (List.mem_singleton.mp hc)

theorem exists_printIdent (w : JSONWriter) (addNewLine : Bool) :
    exists between,
      (w.printIdent addNewLine).json = w.json ++ w.comma ++ between ∧
        Json.Blank between ∧ (w.printIdent addNewLine).newList = false ∧
          (w.printIdent addNewLine).depth = w.depth ∧
            (w.printIdent addNewLine).compact = w.compact := by
  rcases w with ⟨json, depth, newList, compact⟩
  cases compact with
  | true =>
      refine ⟨[], ?_, blank_nil, rfl, ?_, ?_⟩
      · cases newList <;> simp [printIdent, put, comma]
      · cases newList <;> simp [printIdent, put]
      · cases newList <;> simp [printIdent, put]
  | false =>
      have hline : Json.Blank (if addNewLine then
          '\n' :: List.replicate depth '\t' else []) := by
        split
        · exact blank_indent depth
        · exact blank_nil
      refine ⟨(if newList then [] else [' ']) ++ (if addNewLine then
        '\n' :: List.replicate depth '\t' else []), ?_,
          blank_append ?_ hline, rfl, ?_, ?_⟩
      · cases newList <;> cases addNewLine <;> simp [printIdent, put, comma]
      · cases newList with
        | true => exact blank_nil
        | false => exact blank_space
      · cases newList <;> cases addNewLine <;> simp [printIdent, put]
      · cases newList <;> cases addNewLine <;> simp [printIdent, put]

theorem comma_of_newList {w : JSONWriter} (h : w.newList = true) :
    w.comma = [] := by
  rw [comma, if_pos h]

theorem exists_leave (w : JSONWriter) (addNewLine : Bool) (bracket : Char) :
    exists between,
      (w.leave addNewLine bracket).json = w.json ++ between ++ [bracket] ∧
        Json.Blank between ∧ (w.leave addNewLine bracket).newList = false ∧
          (w.leave addNewLine bracket).depth = w.depth - 1 ∧
            (w.leave addNewLine bracket).compact = w.compact := by
  rcases exists_printIdent { w with depth := w.depth - 1, newList := true }
    addNewLine with ⟨between, hjson, hblank, hnew, hdepth, hcompact⟩
  refine ⟨between, ?_, hblank, hnew, hdepth, hcompact⟩
  rw [comma_of_newList rfl, List.append_nil] at hjson
  rw [leave, put, hjson]

def Awaits {item : Type} (spells : item -> List Char -> Prop)
    (xs : List item) (w : JSONWriter) (t : List Char) : Prop :=
  forall x between text, Json.Blank between -> spells x text ->
    Json.Separated spells (xs ++ [x]) (t ++ w.comma ++ between ++ text)

theorem awaits_first {item : Type} {spells : item -> List Char -> Prop}
    {w : JSONWriter} (hnew : w.newList = true) : Awaits spells [] w [] := by
  intro x between text hbetween htext
  have hsingle :=
    Json.Separated.single hbetween htext blank_nil
  rw [List.append_nil] at hsingle
  rw [comma_of_newList hnew]
  exact hsingle

theorem awaits_next {item : Type} {spells : item -> List Char -> Prop}
    {xs : List item} {w : JSONWriter} {t : List Char}
    (hnew : w.newList = false) (h : Json.Separated spells xs t) :
    Awaits spells xs w t := by
  intro x between text hbetween htext
  have hsnoc := Json.Separated.snoc h hbetween htext blank_nil
  rw [List.append_nil] at hsnoc
  have hcomma : w.comma = [','] := by
    rw [comma, hnew]
    rfl
  rw [hcomma]
  simpa using hsnoc

theorem awaits_newLine {item : Type} {spells : item -> List Char -> Prop}
    {xs : List item} {w : JSONWriter} {t between : List Char}
    (hnew : w.newList = true) (h : Json.Separated spells xs t)
    (hbetween : Json.Blank between) :
    Awaits spells xs w (t ++ ',' :: between) := by
  intro x between' text hbetween' htext
  have hsnoc := Json.Separated.snoc h (blank_append hbetween hbetween')
    htext blank_nil
  rw [List.append_nil] at hsnoc
  rw [comma_of_newList hnew]
  simpa using hsnoc

theorem exists_break {item : Type} {spells : item -> List Char -> Prop}
    {xs : List item} {w : JSONWriter} {front t : List Char}
    (hnew : w.newList = false) (hjson : w.json = front ++ t)
    (h : Json.Separated spells xs t) (newLine : Prop) [Decidable newLine] :
    exists w' t', (if newLine then
        { w.printIdent true with newList := true } else w) = w' ∧
      w'.json = front ++ t' ∧ Awaits spells xs w' t' ∧
        w'.depth = w.depth ∧ w'.compact = w.compact := by
  by_cases hline : newLine
  · rcases exists_printIdent w true with
      ⟨between, hprinted, hblank, _, hdepth, hcompact⟩
    refine ⟨_, t ++ ',' :: between, if_pos hline, ?_,
      awaits_newLine rfl h hblank, hdepth, hcompact⟩
    have hcomma : w.comma = [','] := by
      rw [comma, hnew]
      rfl
    rw [hcomma, hjson] at hprinted
    change (w.printIdent true).json = _
    rw [hprinted, List.append_assoc, List.append_assoc]
    rfl
  · exact ⟨w, t, if_neg hline, hjson, awaits_next hnew h, rfl, rfl⟩

/--
The loop over the elements.  The induction is on the elements that come after
the next one, so that something is always left to be written.
-/
theorem writeElements_spec {element : Type}
    {writeElement : element -> JSONWriter -> Option JSONWriter}
    {value : element -> Json} {x : element} {later : List element}
    (h : forall y, y ∈ x :: later ->
      Adds (writeElement y) (Json.Spells (value y)))
    (i : Nat) {w : JSONWriter} {front t : List Char} {written : List Json}
    (hjson : w.json = front ++ t) (hw : Awaits Json.Spells written w t) :
    exists w' t', writeElements writeElement i (x :: later) w = some w' ∧
      w'.json = front ++ t' ∧
        Json.Separated Json.Spells (written ++ (x :: later).map value) t' ∧
          w'.depth = w.depth ∧ w'.compact = w.compact := by
  induction later generalizing x i w t written with
  | nil =>
      rcases h x List.mem_cons_self w with
        ⟨w', between, text, hsome, hjson', hblank, htext, hnew, hdepth,
          hcompact⟩
      refine ⟨w', t ++ w.comma ++ between ++ text, ?_, ?_,
        hw _ _ _ hblank htext, hdepth, hcompact⟩
      · rw [writeElements, hsome]
        change writeElements writeElement (i + 1) []
          (if (i + 1) % 16 = 0 ∧ [] ≠ [] then _ else w') = some w'
        rw [if_neg (fun hboth => hboth.right rfl)]
        rfl
      · rw [hjson', hjson]
        simp only [List.append_assoc]
  | cons y later ih =>
      rcases h x List.mem_cons_self w with
        ⟨mid, between, text, hsome, hjson', hblank, htext, hnew, hdepth,
          hcompact⟩
      have hmid : mid.json = front ++ (t ++ w.comma ++ between ++ text) := by
        rw [hjson', hjson]
        simp only [List.append_assoc]
      rcases exists_break hnew hmid (hw _ _ _ hblank htext)
          ((i + 1) % 16 = 0 ∧ y :: later ≠ []) with
        ⟨next, t', hbreak, hnext, hawaits, hdepth', hcompact'⟩
      have hlater : forall z, z ∈ y :: later ->
          Adds (writeElement z) (Json.Spells (value z)) := by
        intro z hz
        exact h z (List.mem_cons_of_mem x hz)
      rcases ih hlater (i + 1) hnext hawaits with
        ⟨w', t'', hrest, hjson'', hall, hdepth'', hcompact''⟩
      refine ⟨w', t'', ?_, hjson'', ?_,
        hdepth''.trans (hdepth'.trans hdepth),
        hcompact''.trans (hcompact'.trans hcompact)⟩
      · rw [writeElements, hsome]
        change writeElements writeElement (i + 1) (y :: later) (ite _ _ _) = _
        rw [hbreak]
        exact hrest
      · rw [List.append_assoc] at hall
        exact hall

/-- A function that writes one value where it is due. -/
def Appends (writeValue : JSONWriter -> Option JSONWriter)
    (spells : List Char -> Prop) : Prop :=
  forall w, w.newList = false -> exists w' text, writeValue w = some w' ∧
    w'.json = w.json ++ text ∧ spells text ∧ w'.newList = false ∧
      w'.depth = w.depth ∧ w'.compact = w.compact

theorem Appends.element {writeValue : JSONWriter -> Option JSONWriter}
    {spells : List Char -> Prop} (h : Appends writeValue spells)
    (addNewLine : Bool) :
    Adds (fun w => writeValue ((w.printIdent addNewLine).putFieldName none))
      spells := by
  intro w
  rcases exists_printIdent w addNewLine with
    ⟨between, hjson, hblank, hnew, hdepth, hcompact⟩
  rcases h (w.printIdent addNewLine) hnew with
    ⟨w', text, hsome, hjson', htext, hnew', hdepth', hcompact'⟩
  refine ⟨w', between, text, hsome, ?_, hblank, htext, hnew',
    hdepth'.trans hdepth, hcompact'.trans hcompact⟩
  rw [hjson', hjson]

theorem Appends.member {writeValue : JSONWriter -> Option JSONWriter}
    {value : Json} (h : Appends writeValue (Json.Spells value))
    {fieldName : String}
    (hname : forall c, c ∈ fieldName.toList -> Json.Unescaped c)
    (addNewLine : Bool) :
    Adds (fun w =>
        writeValue ((w.printIdent addNewLine).putFieldName (some fieldName)))
      (Json.SpellsMember (fieldName.toList, value)) := by
  intro w
  rcases exists_printIdent w addNewLine with
    ⟨between, hjson, hblank, hnew, hdepth, hcompact⟩
  rcases h ((w.printIdent addNewLine).putFieldName (some fieldName)) hnew with
    ⟨w', text, hsome, hjson', htext, hnew', hdepth', hcompact'⟩
  have hafter : exists after,
      (if (w.printIdent addNewLine).compact then ['"', ':']
        else ['"', ':', ' ']) = '"' :: ':' :: after ∧ Json.Blank after := by
    split
    · exact ⟨[], rfl, blank_nil⟩
    · exact ⟨[' '], rfl, blank_space⟩
  rcases hafter with ⟨after, hseparator, hafterBlank⟩
  refine ⟨w', between, _, hsome, ?_, hblank,
    Json.SpellsMember.member (Json.literal_of_unescaped hname) blank_nil
      hafterBlank htext, hnew', hdepth'.trans hdepth,
    hcompact'.trans hcompact⟩
  rw [hjson', putFieldName, put, hseparator, hjson]
  simp

theorem appends_put {text : List Char} {spells : List Char -> Prop}
    (h : spells text) : Appends (fun w => some (w.put text)) spells := by
  intro w hnew
  exact ⟨w.put text, text, rfl, rfl, h, hnew, rfl, rfl⟩

theorem adds_number {text : List Char} (h : Json.Number text) :
    Adds (fun w => some (w.write none text))
      (Json.Spells (Json.number text)) :=
  (appends_put (Json.Spells.number h)).element false

theorem appends_string (memory : EncodeBuffer) {val : CharString}
    (h : KeepsRoom 0 (chars val)) :
    Appends (fun w => (writeEncodedString memory val).map w.put)
      (Json.Spells (stringJson val)) := by
  rw [writeEncodedString_of_keepsRoom memory h]
  exact appends_put
    (Json.Spells.string ⟨_, rfl, characters_escapedText _⟩)

theorem separated_blank {item : Type} {spells : item -> List Char -> Prop}
    {xs : List item} {t between : List Char}
    (h : Json.Separated spells xs t) (hbetween : Json.Blank between) :
    Json.Separated spells xs (t ++ between) := by
  cases h with
  | single hbefore hspells hafter =>
      rw [List.append_assoc]
      exact Json.Separated.single hbefore hspells
        (blank_append hafter hbetween)
  | snoc hfront hbefore hspells hafter =>
      rw [List.append_assoc]
      exact Json.Separated.snoc hfront hbefore hspells
        (blank_append hafter hbetween)

theorem appends_array {element : Type}
    {writeElement : element -> JSONWriter -> Option JSONWriter}
    {value : element -> Json} {val : List element}
    (h : forall x, x ∈ val -> Adds (writeElement x) (Json.Spells (value x))) :
    Appends (fun w =>
        (writeElements writeElement 0 val (w.enter '[')).map fun w =>
          w.leave false ']')
      (Json.Spells (Json.array (val.map value))) := by
  intro w _
  cases val with
  | nil =>
      rcases exists_leave (w.enter '[') false ']' with
        ⟨between, hjson, hblank, hnew, hdepth, hcompact⟩
      refine ⟨_, '[' :: between ++ [']'], rfl, ?_,
        Json.Spells.emptyArray hblank, hnew, hdepth, hcompact⟩
      rw [hjson, enter, put]
      simp
  | cons x later =>
      have hstart : (w.enter '[').json = w.json ++ ['['] ++ [] := by
        rw [List.append_nil]
        rfl
      rcases writeElements_spec h 0 hstart (awaits_first rfl) with
        ⟨last, t, hsome, hjson, hall, hdepth, hcompact⟩
      rcases exists_leave last false ']' with
        ⟨between, hjson', hblank, hnew, hdepth', hcompact'⟩
      refine ⟨last.leave false ']', '[' :: (t ++ between) ++ [']'], ?_, ?_,
        Json.Spells.array (separated_blank hall hblank), hnew, ?_,
        hcompact'.trans hcompact⟩
      · dsimp only
        rw [hsome]
        rfl
      · rw [hjson', hjson]
        simp
      · rw [hdepth', hdepth]
        rfl

def HasMembers (members : List (List Char × Json)) (w : JSONWriter)
    (t : List Char) : Prop :=
  (members = [] ∧ t = [] ∧ w.newList = true) ∨
    (Json.Separated Json.SpellsMember members t ∧ w.newList = false)

/-- A function that writes members, after those that are there. -/
def AddsMembers (serialize : JSONWriter -> Option JSONWriter)
    (members : List (List Char × Json)) : Prop :=
  forall w front t before, w.json = front ++ t -> HasMembers before w t ->
    exists w' t', serialize w = some w' ∧ w'.json = front ++ t' ∧
      HasMembers (before ++ members) w' t' ∧ w'.depth = w.depth ∧
        w'.compact = w.compact

theorem addsMembers_none : AddsMembers some [] := by
  intro w front t before hjson hbefore
  rw [List.append_nil]
  exact ⟨w, t, rfl, hjson, hbefore, rfl, rfl⟩

theorem Adds.addsMembers {write : JSONWriter -> Option JSONWriter}
    {member : List Char × Json}
    (h : Adds write (Json.SpellsMember member)) :
    AddsMembers write [member] := by
  intro w front t before hjson hbefore
  rcases h w with
    ⟨w', between, text, hsome, hjson', hblank, htext, hnew, hdepth, hcompact⟩
  have hawaits : Awaits Json.SpellsMember before w t := by
    rcases hbefore with ⟨hnone, hempty, hnew⟩ | ⟨hall, hnew⟩
    · rw [hnone, hempty]
      exact awaits_first hnew
    · exact awaits_next hnew hall
  refine ⟨w', t ++ w.comma ++ between ++ text, hsome, ?_,
    Or.inr ⟨hawaits _ _ _ hblank htext, hnew⟩, hdepth, hcompact⟩
  rw [hjson', hjson]
  simp only [List.append_assoc]

theorem AddsMembers.bind {first later : JSONWriter -> Option JSONWriter}
    {members members' : List (List Char × Json)}
    (hfirst : AddsMembers first members) (hlater : AddsMembers later members') :
    AddsMembers (fun w => first w >>= later) (members ++ members') := by
  intro w front t before hjson hbefore
  rcases hfirst w front t before hjson hbefore with
    ⟨mid, t', hsome, hjson', hmid, hdepth, hcompact⟩
  rcases hlater mid front t' (before ++ members) hjson' hmid with
    ⟨w', t'', hsome', hjson'', hall, hdepth', hcompact'⟩
  refine ⟨w', t'', ?_, hjson'', ?_, hdepth'.trans hdepth,
    hcompact'.trans hcompact⟩
  · dsimp only
    rw [hsome]
    exact hsome'
  · rw [List.append_assoc] at hall
    exact hall

theorem spells_object {members : List (List Char × Json)} {w : JSONWriter}
    {t between : List Char} (h : HasMembers members w t)
    (hbetween : Json.Blank between) :
    Json.Spells (Json.object members) ('{' :: (t ++ between) ++ ['}']) := by
  rcases h with ⟨hnone, hempty, _⟩ | ⟨hall, _⟩
  · rw [hnone, hempty]
    exact Json.Spells.emptyObject hbetween
  · exact Json.Spells.object (separated_blank hall hbetween)

theorem appends_object {serialize : JSONWriter -> Option JSONWriter}
    {members : List (List Char × Json)} (h : AddsMembers serialize members) :
    Appends (fun w => (serialize (w.enter '{')).map fun w => w.leave true '}')
      (Json.Spells (Json.object members)) := by
  intro w _
  have hstart : (w.enter '{').json = w.json ++ ['{'] ++ [] := by
    rw [List.append_nil]
    rfl
  rcases h (w.enter '{') _ [] [] hstart (Or.inl ⟨rfl, rfl, rfl⟩) with
    ⟨last, t, hsome, hjson, hall, hdepth, hcompact⟩
  rcases exists_leave last true '}' with
    ⟨between, hjson', hblank, hnew, hdepth', hcompact'⟩
  refine ⟨last.leave true '}', _, ?_, ?_, spells_object hall hblank, hnew, ?_,
    hcompact'.trans hcompact⟩
  · dsimp only
    rw [hsome]
    rfl
  · rw [hjson', hjson]
    simp
  · rw [hdepth', hdepth]
    rfl

end JSONWriter

/-!
## Fields
-/

def Metatype.numbers (name : String) (r : Record) :
    Metatype -> List (IntType × Int)
  | simple type _ _ => [(type, type.cast (r.integer name))]
  | array _ member n _ =>
      ((List.range n).map (r.array name)).map fun val => (member, val)
  | dynarray _ member => (r.vector name).map fun val => (member, val)
  | endarray _ member => (r.vector name).map fun val => (member, val)
  | _ => []

/-- No floating point number of a field is an infinity or a NaN. -/
def Finite (name : String) (metatype : Metatype) (kind : Kind) (r : Record) :
    Prop :=
  kind = Kind.floating -> forall number, number ∈ metatype.numbers name r ->
    (floatFormat number.1).IsFinite (floatBits number.1 number.2)

/-- The string of a field, if it has one, can be escaped in the buffer. -/
def StringFits (name : String) (metatype : Metatype) (_kind : Kind)
    (r : Record) : Prop :=
  match metatype with
  | Metatype.string _ _ =>
      JSONWriter.KeepsRoom 0 (JSONWriter.chars (r.string name))
  | Metatype.dynstring _ _ =>
      JSONWriter.KeepsRoom 0 (JSONWriter.chars (r.string name))
  | Metatype.endstring _ _ =>
      JSONWriter.KeepsRoom 0 (JSONWriter.chars (r.string name))
  | _ => True

/-- Names that are no C identifiers could need escapes. -/
def Description.PlainNames : Description -> Prop
  | nil => True
  | field name _ _ _ rest =>
      (forall c, c ∈ name.toList -> Json.Unescaped c) ∧ rest.PlainNames
  | object name _ _ type rest =>
      (forall c, c ∈ name.toList -> Json.Unescaped c) ∧ type.PlainNames ∧
        rest.PlainNames

theorem number_integerText (n : Int) : Json.Number (integerText n) := by
  unfold integerText
  split
  · exact Json.Number.neg (Json.whole_toDigits _)
  · exact Json.number_toDigits _

theorem number_kind_text_iff (T : IntType) (val : Int) (kind : Kind) :
    Json.Number (kind.text T val) ↔
      (kind = Kind.floating -> (floatFormat T).IsFinite (floatBits T val)) := by
  cases kind with
  | integer => simp [Kind.text, number_integerText]
  | floating =>
      rw [Kind.text, number_text_iff]
      simp
  | handle => simp [Kind.text, number_integerText]

namespace JSONWriter

theorem adds_numbers {name : String} {kind : Kind} {T : IntType}
    {val : List Int} (hname : forall c, c ∈ name.toList -> Json.Unescaped c)
    (h : forall n, n ∈ val -> Json.Number (kind.text T n)) :
    Adds
      (writeArray (fun n w => some (w.write none (kind.text T n))) name val)
      (Json.SpellsMember (name.toList, Json.array (val.map (kind.json T)))) :=
  (appends_array fun n hn => adds_number (h n hn)).member hname true

end JSONWriter

theorem Metatype.addsMembers_writeJson (memory : JSONWriter.EncodeBuffer)
    {name : String} {metatype : Metatype} {kind : Kind} {r : Record}
    (hname : forall c, c ∈ name.toList -> Json.Unescaped c)
    (hfinite : Finite name metatype kind r)
    (hstring : StringFits name metatype kind r) :
    JSONWriter.AddsMembers
      (fun w => metatype.writeJson memory name kind r w)
      ((metatype.json name kind r).toList.map fun value =>
        (name.toList, value)) := by
  have hnumber : forall number, number ∈ metatype.numbers name r ->
      Json.Number (kind.text number.1 number.2) := by
    intro number hmem
    apply (number_kind_text_iff number.1 number.2 kind).mpr
    intro hfloating
    exact hfinite hfloating number hmem
  have hnumbers : forall {T : IntType} {val : List Int},
      metatype.numbers name r = val.map (fun n => (T, n)) ->
        forall n, n ∈ val -> Json.Number (kind.text T n) := by
    intro T val heq n hn
    apply hnumber (T, n)
    rw [heq]
    exact List.mem_map_of_mem hn
  cases metatype with
  | simple type member defaultval =>
      exact ((JSONWriter.appends_put (Json.Spells.number
        (hnumber (type, _) List.mem_cons_self))).member hname
          true).addsMembers
  | array type member n defaultval =>
      exact (JSONWriter.adds_numbers hname (hnumbers rfl)).addsMembers
  | dynarray type member =>
      exact (JSONWriter.adds_numbers hname (hnumbers rfl)).addsMembers
  | count type ref defaultval => exact JSONWriter.addsMembers_none
  | string n defaultval =>
      exact ((JSONWriter.appends_string memory hstring).member hname
        true).addsMembers
  | dynstring hasNullTerminator defaultval =>
      exact ((JSONWriter.appends_string memory hstring).member hname
        true).addsMembers
  | padmarker => exact JSONWriter.addsMembers_none
  | pad size => exact JSONWriter.addsMembers_none
  | endstring hasNullTerminator defaultval =>
      exact ((JSONWriter.appends_string memory hstring).member hname
        true).addsMembers
  | endarray type member =>
      exact (JSONWriter.adds_numbers hname (hnumbers rfl)).addsMembers

theorem Shape.addsMembers_writeJson {name : String} {shape : Shape}
    {r : Record} {serialize : Record -> JSONWriter -> Option JSONWriter}
    {members : Record -> List (List Char × Json)}
    (hname : forall c, c ∈ name.toList -> Json.Unescaped c)
    (h : forall item, item ∈ shape.items name r ->
      JSONWriter.AddsMembers (serialize item) (members item)) :
    JSONWriter.AddsMembers
      (fun w => shape.writeJson serialize name r w)
      [(name.toList, shape.json members name r)] := by
  have hlist : forall items, items = shape.items name r ->
      JSONWriter.Adds
        (JSONWriter.writeArray
          (fun item => JSONWriter.writeObject none (serialize item)) name
            items)
        (Json.SpellsMember (name.toList, Json.array (items.map fun item =>
          Json.object (members item)))) := by
    intro items heq
    refine (JSONWriter.appends_array fun item hitem => ?_).member hname true
    rw [heq] at hitem
    exact (JSONWriter.appends_object (h item hitem)).element true
  cases shape with
  | simple defaultval =>
      exact ((JSONWriter.appends_object
        (h _ List.mem_cons_self)).member hname true).addsMembers
  | array n => exact (hlist _ rfl).addsMembers
  | dynarray => exact (hlist _ rfl).addsMembers
  | endarray => exact (hlist _ rfl).addsMembers

namespace Description

/-- All fields of a struct; the induction goes into the structs of objects. -/
theorem addsMembers_writeJson (memory : JSONWriter.EncodeBuffer)
    (version : Version) {type : Description} {r : Record}
    (hnames : type.PlainNames) (hfinite : type.Every version Finite r)
    (hstrings : type.Every version StringFits r) :
    JSONWriter.AddsMembers (type.writeJson memory version r)
      (type.members version r) := by
  induction type generalizing r with
  | nil => exact JSONWriter.addsMembers_none
  | field name cond metatype kind rest ih =>
      have hrest := ih hnames.right hfinite.right hstrings.right
      cases hcond : cond version r with
      | true =>
          have hfield := Metatype.addsMembers_writeJson memory hnames.left
            (hfinite.left hcond) (hstrings.left hcond)
          have hwrite :
              (field name cond metatype kind rest).writeJson memory version
                r = fun w => metatype.writeJson memory name kind r w >>=
                  rest.writeJson memory version r := by
            funext w
            rw [writeJson, if_pos hcond]
          rw [hwrite, members, if_pos hcond]
          exact hfield.bind hrest
      | false =>
          have hwrite :
              (field name cond metatype kind rest).writeJson memory version
                r = rest.writeJson memory version r := by
            funext w
            rw [writeJson, hcond, if_neg Bool.false_ne_true]
          rw [hwrite, members, hcond, if_neg Bool.false_ne_true,
            List.nil_append]
          exact hrest
  | object name cond shape type rest ihType ihRest =>
      have hrest := ihRest hnames.right.right hfinite.right hstrings.right
      cases hcond : cond version r with
      | true =>
          have hobjects : JSONWriter.AddsMembers
              (fun w => shape.writeJson
                (fun item w => type.writeJson memory version item w) name r w)
              [(name.toList,
                shape.json (fun item => type.members version item) name r)] :=
            Shape.addsMembers_writeJson hnames.left
              fun item hitem => ihType hnames.right.left
                (hfinite.left hcond item hitem)
                  (hstrings.left hcond item hitem)
          have hwrite :
              (object name cond shape type rest).writeJson memory version r =
                fun w => shape.writeJson
                  (fun item w => type.writeJson memory version item w) name r
                    w >>= rest.writeJson memory version r := by
            funext w
            rw [writeJson, if_pos hcond]
          rw [hwrite, members, if_pos hcond]
          exact hobjects.bind hrest
      | false =>
          have hwrite :
              (object name cond shape type rest).writeJson memory version r =
                rest.writeJson memory version r := by
            funext w
            rw [writeJson, hcond, if_neg Bool.false_ne_true]
          rw [hwrite, members, hcond, if_neg Bool.false_ne_true,
            List.nil_append]
          exact hrest

end Description

/-!
## Strings that do not fit
-/

namespace JSONWriter

theorem writeElements_eq_none {element : Type}
    {writeElement : element -> JSONWriter -> Option JSONWriter}
    {x : element} {val : List element} (hx : x ∈ val)
    (h : forall w, writeElement x w = none) (i : Nat) (w : JSONWriter) :
    writeElements writeElement i val w = none := by
  induction val generalizing i w with
  | nil => cases hx
  | cons y later ih =>
      rw [writeElements]
      cases hfirst : writeElement y w with
      | none => rfl
      | some w' =>
          rcases List.mem_cons.mp hx with heq | hlater
          · rw [← heq, h w] at hfirst
            cases hfirst
          · exact ih hlater _ _

end JSONWriter

theorem Metatype.writeJson_eq_none (memory : JSONWriter.EncodeBuffer)
    {name : String} {metatype : Metatype} {kind : Kind} {r : Record}
    (h : ¬StringFits name metatype kind r) (w : JSONWriter) :
    metatype.writeJson memory name kind r w = none := by
  have hnone : ¬JSONWriter.KeepsRoom 0 (JSONWriter.chars (r.string name)) ->
      w.writeString memory name (r.string name) = none := by
    intro hfull
    rw [JSONWriter.writeString,
      JSONWriter.writeEncodedString_eq_none memory hfull]
    rfl
  cases metatype with
  | string n defaultval => exact hnone h
  | dynstring hasNullTerminator defaultval => exact hnone h
  | endstring hasNullTerminator defaultval => exact hnone h
  | simple type member defaultval => exact absurd trivial h
  | array type member n defaultval => exact absurd trivial h
  | dynarray type member => exact absurd trivial h
  | count type ref defaultval => exact absurd trivial h
  | padmarker => exact absurd trivial h
  | pad size => exact absurd trivial h
  | endarray type member => exact absurd trivial h

theorem Shape.writeJson_eq_none {name : String} {shape : Shape} {r item : Record}
    {serialize : Record -> JSONWriter -> Option JSONWriter}
    (hitem : item ∈ shape.items name r)
    (h : forall w, serialize item w = none) (w : JSONWriter) :
    shape.writeJson serialize name r w = none := by
  have hobject : forall fieldName w,
      JSONWriter.writeObject fieldName (serialize item) w = none := by
    intro fieldName w
    rw [JSONWriter.writeObject, h]
    rfl
  have hlist : forall items, item ∈ items ->
      w.writeArray (fun item => JSONWriter.writeObject none (serialize item))
        name items = none := by
    intro items hmem
    rw [JSONWriter.writeArray,
      JSONWriter.writeElements_eq_none hmem (hobject none)]
    rfl
  cases shape with
  | simple defaultval =>
      rw [List.mem_singleton.mp hitem] at hobject
      exact hobject (some name) w
  | array n => exact hlist _ hitem
  | dynarray => exact hlist _ hitem
  | endarray => exact hlist _ hitem

theorem Description.writeJson_eq_none (memory : JSONWriter.EncodeBuffer)
    (version : Version) {type : Description} {r : Record}
    (h : ¬type.Every version StringFits r) (w : JSONWriter) :
    type.writeJson memory version r w = none := by
  induction type generalizing r w with
  | nil => exact absurd trivial h
  | field name cond metatype kind rest ih =>
      rw [writeJson]
      cases hcond : cond version r with
      | true =>
          rw [if_pos rfl]
          by_cases hfield : StringFits name metatype kind r
          · have hrest : ¬rest.Every version StringFits r :=
              fun hrest => h ⟨fun _ => hfield, hrest⟩
            cases metatype.writeJson memory name kind r w with
            | none => rfl
            | some w' => exact ih hrest w'
          · rw [Metatype.writeJson_eq_none memory hfield]
            rfl
      | false =>
          rw [if_neg Bool.false_ne_true]
          apply ih
          intro hrest
          apply h
          refine ⟨?_, hrest⟩
          intro htrue
          rw [hcond] at htrue
          cases htrue
  | object name cond shape type rest ihType ihRest =>
      rw [writeJson]
      cases hcond : cond version r with
      | true =>
          rw [if_pos rfl]
          by_cases hitems : forall item, item ∈ shape.items name r ->
              type.Every version StringFits item
          · have hrest : ¬rest.Every version StringFits r :=
              fun hrest => h ⟨fun _ => hitems, hrest⟩
            cases shape.writeJson
                (fun item w => type.writeJson memory version item w) name r
                  w with
            | none => rfl
            | some w' => exact ihRest hrest w'
          · push Not at hitems
            rcases hitems with ⟨item, hitem, hnot⟩
            rw [Shape.writeJson_eq_none hitem (ihType hnot)]
            rfl
      | false =>
          rw [if_neg Bool.false_ne_true]
          apply ihRest
          intro hrest
          apply h
          refine ⟨?_, hrest⟩
          intro htrue
          rw [hcond] at htrue
          cases htrue

/-!
## Numbers that are none
-/

theorem Metatype.finite_of_hasNumbers {name : String} {metatype : Metatype}
    {kind : Kind} {r : Record}
    (h : forall value, metatype.json name kind r = some value ->
      value.HasNumbers) : Finite name metatype kind r := by
  have hlist : forall {T : IntType} {val : List Int},
      (Json.array (val.map (kind.json T))).HasNumbers ->
        kind = Kind.floating ->
          forall number, number ∈ val.map (fun n => (T, n)) ->
            (floatFormat number.1).IsFinite
              (floatBits number.1 number.2) := by
    intro T val hall hfloating number hnumber
    rcases List.mem_map.mp hnumber with ⟨n, hn, heq⟩
    rw [← heq]
    have hjson := (Json.haveNumbers_iff _).mp hall (kind.json T n)
      (List.mem_map_of_mem hn)
    exact (number_kind_text_iff T n kind).mp hjson hfloating
  cases metatype with
  | simple type member defaultval =>
      intro hfloating number hnumber
      rw [List.mem_singleton.mp hnumber]
      exact (number_kind_text_iff type _ kind).mp (h _ rfl) hfloating
  | array type member n defaultval =>
      intro hfloating
      exact hlist (h _ rfl) hfloating
  | dynarray type member =>
      intro hfloating
      exact hlist (h _ rfl) hfloating
  | endarray type member =>
      intro hfloating
      exact hlist (h _ rfl) hfloating
  | count type ref defaultval =>
      intro _ number hnumber
      cases hnumber
  | string n defaultval =>
      intro _ number hnumber
      cases hnumber
  | dynstring hasNullTerminator defaultval =>
      intro _ number hnumber
      cases hnumber
  | padmarker =>
      intro _ number hnumber
      cases hnumber
  | pad size =>
      intro _ number hnumber
      cases hnumber
  | endstring hasNullTerminator defaultval =>
      intro _ number hnumber
      cases hnumber

theorem Shape.members_haveNumbers {name : String} {shape : Shape}
    {r item : Record} {members : Record -> List (List Char × Json)}
    (h : (shape.json members name r).HasNumbers)
    (hitem : item ∈ shape.items name r) :
    Json.MembersHaveNumbers (members item) := by
  have hlist : forall items : List Record, item ∈ items ->
      (Json.array (items.map fun item =>
        Json.object (members item))).HasNumbers ->
          Json.MembersHaveNumbers (members item) := by
    intro items hmem hall
    exact (Json.haveNumbers_iff _).mp hall _
      (List.mem_map_of_mem (f := fun item => Json.object (members item)) hmem)
  cases shape with
  | simple defaultval =>
      rw [List.mem_singleton.mp hitem]
      exact h
  | array n => exact hlist _ hitem h
  | dynarray => exact hlist _ hitem h
  | endarray => exact hlist _ hitem h

theorem Description.every_finite {version : Version} {type : Description}
    {r : Record}
    (h : Json.MembersHaveNumbers (type.members version r)) :
    type.Every version Finite r := by
  induction type generalizing r with
  | nil => exact trivial
  | field name cond metatype kind rest ih =>
      rw [members] at h
      have hall := (Json.membersHaveNumbers_iff _).mp h
      constructor
      · intro hcond
        apply Metatype.finite_of_hasNumbers
        intro value hvalue
        apply hall (name.toList, value)
        apply List.mem_append_left
        rw [if_pos hcond, hvalue]
        exact List.mem_cons_self
      · apply ih
        apply (Json.membersHaveNumbers_iff _).mpr
        intro member hmember
        exact hall member (List.mem_append_right _ hmember)
  | object name cond shape type rest ihType ihRest =>
      rw [members] at h
      have hall := (Json.membersHaveNumbers_iff _).mp h
      constructor
      · intro hcond item hitem
        apply ihType
        have hobject := hall (name.toList,
            shape.json (fun item => type.members version item) name r) (by
          apply List.mem_append_left
          rw [if_pos hcond]
          exact List.mem_cons_self)
        exact Shape.members_haveNumbers hobject hitem
      · apply ihRest
        apply (Json.membersHaveNumbers_iff _).mpr
        intro member hmember
        exact hall member (List.mem_append_right _ hmember)

/-!
## Whole texts
-/

namespace Description

/--
The text is a document with a member for every field in force and an element
for every element.
-/
def WritesDocument (memory : JSONWriter.EncodeBuffer) (compact : Bool)
    (version : Version) (packetId : Option UInt16) (type : Description)
    (r : Record) : Prop :=
  exists text, type.toJson memory compact version packetId r = some text ∧
    Json.Document (type.json version packetId r) text

/--
The size that the header of a packet asks for does not look for elements which
are not there, strings fit into the buffer for their escapes, and floating
point numbers are finite.
-/
def Printable (version : Version) (packetId : Option UInt16)
    (type : Description) (r : Record) : Prop :=
  (packetId.isSome = true ->
    (type.struct.addSize version r Locals.initial 7).isSome = true) ∧
      type.Every version StringFits r ∧ type.Every version Finite r

theorem unescaped_of_all {name : String}
    (h : (name.toList.all fun c => decide (Json.Unescaped c)) = true) (c : Char)
    (hc : c ∈ name.toList) : Json.Unescaped c :=
  of_decide_eq_true (List.all_eq_true.mp h c hc)

theorem addsMembers_writeHeader (id : UInt16) :
    JSONWriter.AddsMembers (fun w => some (w.writeHeader id))
      [("id".toList, Json.number (Nat.toDigits 10 id.toNat))] := by
  have hname : forall c, c ∈ "id".toList -> Json.Unescaped c :=
    unescaped_of_all rfl
  exact ((JSONWriter.appends_put (Json.Spells.number
    (Json.number_toDigits id.toNat))).member hname true).addsMembers

theorem document_finalize {compact : Bool} {w : JSONWriter} {t : List Char}
    {members : List (List Char × Json)} (hcompact : w.compact = compact)
    (hjson : w.json = ['{'] ++ t) (h : JSONWriter.HasMembers members w t) :
    Json.Document (Json.object members) w.finalize.json := by
  have hafter : Json.Blank ['\n'] := by
    intro c hc
    exact Or.inr (Or.inr (Or.inl (List.mem_singleton.mp hc)))
  cases compact with
  | true =>
      refine ⟨[], _, ['\n'], ?_, JSONWriter.blank_nil,
        JSONWriter.spells_object h JSONWriter.blank_nil, hafter⟩
      rw [JSONWriter.finalize, JSONWriter.put, hcompact, hjson]
      simp
  | false =>
      refine ⟨[], _, ['\n'], ?_, JSONWriter.blank_nil,
        JSONWriter.spells_object h hafter, hafter⟩
      rw [JSONWriter.finalize, JSONWriter.put, hcompact, hjson]
      simp

theorem exists_document (compact : Bool)
    {serialize : JSONWriter -> Option JSONWriter}
    {members : List (List Char × Json)}
    (h : JSONWriter.AddsMembers serialize members) :
    exists w, serialize (JSONWriter.create compact) = some w ∧
      Json.Document (Json.object members) w.finalize.json := by
  rcases h (JSONWriter.create compact) ['{'] [] [] rfl
      (Or.inl ⟨rfl, rfl, rfl⟩) with
    ⟨w, t, hsome, hjson, hall, _, hcompact⟩
  exact ⟨w, hsome, document_finalize hcompact hjson hall⟩

theorem writesDocument_of_printable (memory : JSONWriter.EncodeBuffer)
    (compact : Bool) {version : Version} {packetId : Option UInt16}
    {type : Description} {r : Record} (hnames : type.PlainNames)
    (h : Printable version packetId type r) :
    WritesDocument memory compact version packetId type r := by
  have hfields :=
    addsMembers_writeJson memory version hnames h.right.right h.right.left
  cases packetId with
  | none =>
      rcases exists_document compact hfields with
        ⟨w, hsome, hdocument⟩
      refine ⟨w.finalize.json, ?_, hdocument⟩
      unfold toJson
      change (type.writeJson memory version r _ >>= fun w => pure _) = _
      rw [hsome]
      rfl
  | some id =>
      rcases Option.isSome_iff_exists.mp (h.left rfl) with ⟨size, hsize⟩
      rcases exists_document compact
          ((addsMembers_writeHeader id).bind hfields) with
        ⟨w, hsome, hdocument⟩
      refine ⟨w.finalize.json, ?_, hdocument⟩
      change type.writeJson memory version r
        ((JSONWriter.create compact).writeHeader id) = some w at hsome
      unfold toJson
      dsimp only
      rw [hsize]
      change (type.writeJson memory version r _ >>= fun w => pure _) = _
      rw [hsome]
      rfl

theorem toJson_eq_none (memory : JSONWriter.EncodeBuffer) (compact : Bool)
    {version : Version} {packetId : Option UInt16} {type : Description}
    {r : Record} (h : ¬type.Every version StringFits r) :
    type.toJson memory compact version packetId r = none := by
  have hnone := writeJson_eq_none memory version h
  unfold toJson
  dsimp only
  cases packetId with
  | none =>
      change (type.writeJson memory version r _ >>= fun w => pure _) = _
      rw [hnone]
      rfl
  | some id =>
      cases type.struct.addSize version r Locals.initial 7 with
      | none => rfl
      | some size =>
          change (type.writeJson memory version r _ >>= fun w => pure _) = _
          rw [hnone]
          rfl

theorem printable_of_writesDocument {memory : JSONWriter.EncodeBuffer}
    {compact : Bool} {version : Version} {packetId : Option UInt16}
    {type : Description} {r : Record}
    (h : WritesDocument memory compact version packetId type r) :
    Printable version packetId type r := by
  rcases h with ⟨text, hsome, before, inside, after, _, _, hspells, _⟩
  refine ⟨?_, ?_, ?_⟩
  · intro hpacket
    rcases Option.isSome_iff_exists.mp hpacket with ⟨id, hid⟩
    by_contra hsize
    rw [Option.not_isSome_iff_eq_none] at hsize
    unfold toJson at hsome
    dsimp only at hsome
    rw [hid] at hsome
    dsimp only at hsome
    rw [hsize] at hsome
    cases hsome
  · by_contra hstrings
    rw [toJson_eq_none memory compact hstrings] at hsome
    cases hsome
  · apply every_finite
    have hall := (Json.membersHaveNumbers_iff _).mp hspells.hasNumbers
    apply (Json.membersHaveNumbers_iff _).mpr
    intro member hmember
    exact hall member (List.mem_append_right _ hmember)

/--
The text is well formed exactly when strings fit into the buffer and floating
point numbers are finite.
-/
theorem writesDocument_iff_printable (memory : JSONWriter.EncodeBuffer)
    (compact : Bool) (version : Version) (packetId : Option UInt16)
    (type : Description) (r : Record) (hnames : type.PlainNames) :
    WritesDocument memory compact version packetId type r ↔
      Printable version packetId type r :=
  ⟨printable_of_writesDocument,
    writesDocument_of_printable memory compact hnames⟩

/-- `MOVE_REQUEST_INFO` -/
def moveRequestInfo : Description :=
  field "tx" always (Metatype.simple uint32 uint32 none) Kind.floating <|
  field "ty" always (Metatype.simple uint32 uint32 none) Kind.floating nil

/-- `TS_CS_MOVE_REQUEST` -/
def moveRequest : Description :=
  field "handle" always (Metatype.simple uint32 uint32 none) Kind.handle <|
  field "x" always (Metatype.simple uint32 uint32 none) Kind.floating <|
  field "y" always (Metatype.simple uint32 uint32 none) Kind.floating <|
  field "cur_time" always (Metatype.simple uint32 uint32 none)
    Kind.integer <|
  field "speed_sync" always (Metatype.simple uint8 uint8 none)
    Kind.integer <|
  field "move_infos" always
    (Metatype.count uint16 Container.objectVector none) Kind.integer <|
  object "move_infos" always Shape.dynarray moveRequestInfo <|
  field "dummy_padding" always (Metatype.endarray uint8 uint8)
    Kind.integer nil

theorem moveRequest_plainNames : moveRequest.PlainNames :=
  ⟨unescaped_of_all rfl, unescaped_of_all rfl, unescaped_of_all rfl,
    unescaped_of_all rfl, unescaped_of_all rfl, unescaped_of_all rfl,
    unescaped_of_all rfl,
    ⟨unescaped_of_all rfl, unescaped_of_all rfl, trivial⟩,
    unescaped_of_all rfl, trivial⟩

/-- The text of a request for an ordinary move. -/
theorem writesDocument_moveRequest :
    WritesDocument ⟨List.replicate 2048 'x', List.length_replicate, 0⟩ false
        EPIC_4_1 (some 5) moveRequest Record.zero ↔
      Printable EPIC_4_1 (some 5) moveRequest Record.zero :=
  writesDocument_iff_printable _ _ _ _ _ _ moveRequest_plainNames

/-- A request with an infinite coordinate is logged as text that is no JSON. -/
theorem not_writesDocument :
    ¬forall memory compact version packetId type r,
      PlainNames type ->
        WritesDocument memory compact version packetId type r := by
  intro hall
  have hprintable := printable_of_writesDocument
    (hall ⟨List.replicate 2048 'x', List.length_replicate, 0⟩ false EPIC_4_1
      (some 5) moveRequest (Record.zero.setInteger "x" 0x7F800000)
      moveRequest_plainNames)
  have hfinite : Finite "x" (Metatype.simple uint32 uint32 none)
      Kind.floating (Record.zero.setInteger "x" 0x7F800000) :=
    hprintable.right.right.right.left rfl
  have hx := hfinite rfl _ List.mem_cons_self
  revert hx
  decide +kernel

end Description

end Packet
end Rzu
