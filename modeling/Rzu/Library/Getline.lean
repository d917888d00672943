import Mathlib.Data.List.TakeWhile

/-!
# Reading a text field by field

`getline` takes a field and the separator behind it.  The end of the input
ends a field as well, but only if the field has a character: nothing can be
read where the input ends.
-/

namespace Rzu
namespace Library

section Getline

variable {char : Type _}

/-- A text under way, and whether it can still be read from. -/
structure InputStream (char : Type _) where
  rest : List char
  good : Bool
deriving DecidableEq

section Reading

variable [DecidableEq char]

namespace InputStream

def ofText (text : List char) : InputStream char where
  rest := text
  good := true

variable (separator : char)

/-- Read up to the separator; `none` says that nothing could be read. -/
def getline (stream : InputStream char) :
    Option (List char × InputStream char) :=
  if stream.good = false ∨ stream.rest = [] then none
  else
    match stream.rest.dropWhile fun c => decide (c ≠ separator) with
    | [] => some (stream.rest, { rest := [], good := false })
    | _ :: rest =>
        some (stream.rest.takeWhile fun c => decide (c ≠ separator),
          { rest := rest, good := true })

variable {separator}

theorem getline_length_lt {stream next : InputStream char}
    {field : List char}
    (h : stream.getline separator = some (field, next)) :
    next.rest.length < stream.rest.length := by
  unfold getline at h
  split at h
  · cases h
  · rename_i hreadable
    rw [not_or] at hreadable
    have hpos := List.length_pos_iff.mpr hreadable.right
    split at h
    · cases h
      exact hpos
    · rename_i c rest hdrop
      cases h
      have hle := (List.dropWhile_suffix
        (l := stream.rest) fun c => decide (c ≠ separator)).length_le
      rw [hdrop, List.length_cons] at hle
      exact hle

theorem getline_nil (good : Bool) :
    ({ rest := [], good := good } : InputStream char).getline separator =
      none :=
  if_pos (Or.inr rfl)

theorem getline_append {field : List char} (h : separator ∉ field)
    (rest : List char) :
    (ofText (field ++ separator :: rest)).getline separator =
      some (field, ofText rest) := by
  have hfield : forall c, c ∈ field -> decide (c ≠ separator) = true := by
    intro c hc
    apply decide_eq_true
    intro heq
    exact h (heq ▸ hc)
  have hdrop : (field ++ separator :: rest).dropWhile
      (fun c => decide (c ≠ separator)) = separator :: rest := by
    rw [List.dropWhile_append_of_pos hfield, List.dropWhile_cons_of_neg]
    simp
  have htake : (field ++ separator :: rest).takeWhile
      (fun c => decide (c ≠ separator)) = field := by
    rw [List.takeWhile_append_of_pos hfield, List.takeWhile_cons_of_neg,
      List.append_nil]
    simp
  unfold getline ofText
  rw [if_neg (by simp)]
  simp only [hdrop, htake]

theorem getline_last {field : List char} (h : separator ∉ field)
    (hne : field ≠ []) :
    (ofText field).getline separator =
      some (field, { rest := [], good := false }) := by
  have hfield : forall c, c ∈ field -> decide (c ≠ separator) = true := by
    intro c hc
    apply decide_eq_true
    intro heq
    exact h (heq ▸ hc)
  have hdrop : field.dropWhile (fun c => decide (c ≠ separator)) = [] :=
    List.dropWhile_eq_nil_iff.mpr hfield
  unfold getline ofText
  rw [if_neg (by simp [hne])]
  simp only [hdrop]

def readPairs (separator : char) (stream : InputStream char) :
    List (List char × List char) :=
  match _hkey : stream.getline separator with
  | none => []
  | some (key, afterKey) =>
      match _hvalue : afterKey.getline separator with
      | none => []
      | some (value, afterValue) =>
          (key, value) :: readPairs separator afterValue
termination_by stream.rest.length
decreasing_by
  exact Nat.lt_trans (getline_length_lt _hvalue) (getline_length_lt _hkey)

theorem readPairs_none {stream : InputStream char}
    (h : stream.getline separator = none) :
    stream.readPairs separator = [] := by
  rw [readPairs]
  split
  · rfl
  · rename_i hsome
    rw [h] at hsome
    cases hsome

theorem readPairs_key {stream afterKey : InputStream char}
    {key : List char}
    (hkey : stream.getline separator = some (key, afterKey))
    (hvalue : afterKey.getline separator = none) :
    stream.readPairs separator = [] := by
  rw [readPairs]
  split
  · rfl
  · rename_i hsome
    rw [hkey] at hsome
    cases hsome
    split
    · rfl
    · rename_i hsome
      rw [hvalue] at hsome
      cases hsome

theorem readPairs_pair {stream afterKey afterValue : InputStream char}
    {key value : List char}
    (hkey : stream.getline separator = some (key, afterKey))
    (hvalue : afterKey.getline separator = some (value, afterValue)) :
    stream.readPairs separator =
      (key, value) :: afterValue.readPairs separator := by
  rw [readPairs]
  split
  · rename_i hnone
    rw [hkey] at hnone
    cases hnone
  · rename_i hsome
    rw [hkey] at hsome
    cases hsome
    split
    · rename_i hnone
      rw [hvalue] at hnone
      cases hnone
    · rename_i hsome
      rw [hvalue] at hsome
      cases hsome
      rfl

end InputStream

end Reading

def pairsText (separator : char) (pairs : List (List char × List char)) :
    List char :=
  [separator].intercalate (pairs.flatMap fun pair => [pair.1, pair.2])

variable {separator : char}

theorem pairsText_cons_cons (pair next : List char × List char)
    (pairs : List (List char × List char)) :
    pairsText separator (pair :: next :: pairs) =
      pair.1 ++ separator :: (pair.2 ++ separator ::
        pairsText separator (next :: pairs)) := by
  simp [pairsText, List.intercalate_cons_cons]

theorem pairsText_singleton (pair : List char × List char) :
    pairsText separator [pair] = pair.1 ++ separator :: pair.2 := by
  simp [pairsText, List.intercalate_cons_cons]

def Separable (separator : char)
    (pairs : List (List char × List char)) : Prop :=
  forall pair, pair ∈ pairs -> separator ∉ pair.1 ∧ separator ∉ pair.2

/-- The pairs that are read: an empty value at the very end is not. -/
def readable (pairs : List (List char × List char)) :
    List (List char × List char) :=
  match pairs.getLast? with
  | some (_, []) => pairs.dropLast
  | _ => pairs

theorem readable_cons_cons (pair next : List char × List char)
    (pairs : List (List char × List char)) :
    readable (pair :: next :: pairs) = pair :: readable (next :: pairs) := by
  unfold readable
  rw [List.getLast?_cons_cons]
  split
  · rw [List.dropLast_cons_cons]
  · rfl

/-- What the two alternating calls make of the text of some pairs. -/
theorem readPairs_pairsText [DecidableEq char]
    {pairs : List (List char × List char)}
    (h : Separable separator pairs) :
    (InputStream.ofText (pairsText separator pairs)).readPairs separator =
      readable pairs := by
  induction pairs with
  | nil => exact InputStream.readPairs_none (InputStream.getline_nil true)
  | cons pair pairs ih =>
      rcases h pair List.mem_cons_self with ⟨hkey, hvalue⟩
      cases pairs with
      | nil =>
          rw [pairsText_singleton]
          rcases pair with ⟨key, value⟩
          have hfirst := InputStream.getline_append hkey value
          cases value with
          | nil =>
              exact InputStream.readPairs_key hfirst
                (InputStream.getline_nil true)
          | cons c value =>
              rw [InputStream.readPairs_pair hfirst
                (InputStream.getline_last hvalue (List.cons_ne_nil _ _)),
                InputStream.readPairs_none (InputStream.getline_nil false)]
              rfl
      | cons next pairs =>
          have hrest := ih fun other hother =>
            h other (List.mem_cons_of_mem _ hother)
          rw [pairsText_cons_cons, readable_cons_cons,
            InputStream.readPairs_pair
              (InputStream.getline_append hkey _)
              (InputStream.getline_append hvalue _), hrest]

def terminated (separator : char) (fields : List (List char)) :
    List char :=
  fields.flatMap fun field => field ++ [separator]

theorem terminated_append (fields fields' : List (List char)) :
    terminated separator (fields ++ fields') =
      terminated separator fields ++ terminated separator fields' :=
  List.flatMap_append

theorem terminated_flatMap {record : Type} (f : record -> List (List char))
    (records : List record) :
    terminated separator (records.flatMap f) =
      records.flatMap fun r => terminated separator (f r) :=
  List.flatMap_assoc

/-- The fields of a record in a row of records of one width. -/
theorem getElem?_records {record field : Type} {f : record -> List field}
    {width : Nat} (hwidth : forall r, (f r).length = width)
    {records : List record} {i : Nat} {r : record}
    (hr : records[i]? = some r) {j : Nat} (hj : j < width) :
    (records.flatMap f)[i * width + j]? = (f r)[j]? := by
  induction records generalizing i with
  | nil => simp at hr
  | cons first records ih =>
      have hfirst := hwidth first
      rw [List.flatMap_cons]
      cases i with
      | zero =>
          cases hr
          rw [List.getElem?_append_left (by lia), Nat.zero_mul, Nat.zero_add]
      | succ i =>
          have hindex : (i + 1) * width + j - (f first).length =
              i * width + j := by
            rw [hfirst, Nat.add_mul]
            lia
          rw [List.getElem?_append_right (by rw [hfirst, Nat.add_mul]; lia),
            hindex]
          exact ih hr

theorem length_records {record field : Type} {f : record -> List field}
    {width : Nat} (hwidth : forall r, (f r).length = width)
    (records : List record) :
    (records.flatMap f).length = records.length * width := by
  induction records with
  | nil => simp
  | cons first records ih =>
      rw [List.flatMap_cons, List.length_append, hwidth, ih, List.length_cons,
        Nat.add_mul]
      lia

theorem dropLast_terminated (fields : List (List char)) :
    (terminated separator fields).dropLast =
      [separator].intercalate fields := by
  induction fields with
  | nil => rfl
  | cons field fields ih =>
      cases fields with
      | nil => simp [terminated]
      | cons next fields =>
          have hne : terminated separator (next :: fields) ≠ [] := by
            simp [terminated]
          rw [List.intercalate_cons_cons, ← ih, terminated,
            List.flatMap_cons]
          change ((field ++ [separator]) ++
            terminated separator (next :: fields)).dropLast = _
          rw [List.dropLast_append_of_ne_nil hne]

end Getline

end Library
end Rzu
