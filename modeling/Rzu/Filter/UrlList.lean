import Mathlib.Algebra.Ring.Nat
import Mathlib.Data.List.Induction
import Rzu.Filter.ServerList
import Rzu.Library.Getline

/-!
# Rewriting URL lists

A URL list is a text of keys and values.  The filter reads it pair by pair,
and replaces the address that guild icons are uploaded to by a listener of its
own.
-/

namespace Rzu
namespace Filter

open Library

def guildIconIpKey : Text := "guild_icon_upload.ip".toList

def guildIconPortKey : Text := "guild_icon_upload.port".toList

/-- `std::from_chars` into a `uint16_t`; `none` leaves the value alone. -/
def fromChars (value : Text) : Option Nat :=
  let digits := value.takeWhile Char.isDigit
  if digits = [] then none
  else if 65535 < Nat.ofDigitChars 10 digits 0 then none
  else some (Nat.ofDigitChars 10 digits 0)

structure UrlListReading where
  guildIconUploadIp : Text
  guildIconUploadPort : Nat
  urlList : List Text
deriving DecidableEq, Repr

namespace UrlListReading

def create : UrlListReading where
  guildIconUploadIp := []
  guildIconUploadPort := 0
  urlList := []

def readPair (r : UrlListReading) (pair : Text × Text) : UrlListReading :=
  if pair.1 = guildIconIpKey then
    { r with guildIconUploadIp := pair.2 }
  else if pair.1 = guildIconPortKey then
    { r with
      guildIconUploadPort :=
        (fromChars pair.2).getD r.guildIconUploadPort }
  else
    { r with urlList := r.urlList ++ [pair.1, pair.2] }

def ofText (url_list : Text) : UrlListReading :=
  ((InputStream.ofText url_list).readPairs '|').foldl readPair create

end UrlListReading

/-- The manager, and the base port that all sessions share. -/
structure UploadState where
  manager : GameClientSessionManager
  uploadBasePort : Nat

namespace UploadState

variable (host : Host) (config : ClientConfig)

/-- The base port comes from the configuration the first time. -/
def basePort (s : UploadState) : Nat :=
  if s.uploadBasePort = 0 then toUint16 config.uploadBasePort
  else s.uploadBasePort

/-- The branch of `onPacketReceived` for URL lists. -/
def onUrlList (s : UploadState) (url_list : Text) : Text × UploadState :=
  let r := UrlListReading.ofText url_list
  if r.guildIconUploadIp ≠ [] ∧ r.guildIconUploadPort ≠ 0 then
    let listener := s.manager.ensureListening host (s.basePort config)
      { serverIp := r.guildIconUploadIp
        serverPort := r.guildIconUploadPort }
    ((terminated '|'
        (r.urlList ++
          [guildIconIpKey, config.gameExternalIp, guildIconPortKey,
            convertToString listener.1])).dropLast,
      { manager := listener.2
        uploadBasePort := nextListenPort (s.basePort config) })
  else
    (url_list, { s with uploadBasePort := s.basePort config })

end UploadState

/-!
## What a list says
-/

section Entries

variable (pairs : List (Text × Text))

/-- The upload address of a list: the last entry counts. -/
def iconIp : Text :=
  ((pairs.filter fun pair => pair.1 = guildIconIpKey).getLast?.map
    Prod.snd).getD []

def portEntry (pair : Text × Text) : Option Nat :=
  if pair.1 = guildIconPortKey then fromChars pair.2 else none

/-- The upload port of a list: the last entry that is a number counts. -/
def iconPort : Nat :=
  (pairs.filterMap portEntry).getLast?.getD 0

def otherPairs : List (Text × Text) :=
  pairs.filter fun pair =>
    pair.1 ≠ guildIconIpKey ∧ pair.1 ≠ guildIconPortKey

/-- A list that announces where icons are uploaded to. -/
def AnnouncesIcons : Prop :=
  iconIp pairs ≠ [] ∧ iconPort pairs ≠ 0

instance : Decidable (AnnouncesIcons pairs) :=
  inferInstanceAs (Decidable (_ ∧ _))

end Entries

theorem guildIconKeys_ne : guildIconIpKey ≠ guildIconPortKey := by
  decide

section Snoc

variable (pairs : List (Text × Text)) (pair : Text × Text)

theorem iconIp_snoc :
    iconIp (pairs ++ [pair]) =
      if pair.1 = guildIconIpKey then pair.2 else iconIp pairs := by
  unfold iconIp
  rw [List.filter_append, List.filter_singleton]
  by_cases hip : pair.1 = guildIconIpKey
  · simp [hip]
  · simp [hip]

theorem iconPort_snoc :
    iconPort (pairs ++ [pair]) = (portEntry pair).getD (iconPort pairs) := by
  unfold iconPort
  rw [List.filterMap_append]
  cases hport : portEntry pair with
  | none => simp [hport]
  | some port => simp [hport]

theorem otherPairs_snoc :
    otherPairs (pairs ++ [pair]) =
      otherPairs pairs ++
        if pair.1 ≠ guildIconIpKey ∧ pair.1 ≠ guildIconPortKey then [pair]
        else [] := by
  unfold otherPairs
  rw [List.filter_append, List.filter_singleton]
  simp

end Snoc

theorem foldl_readPair (pairs : List (Text × Text)) :
    pairs.foldl UrlListReading.readPair UrlListReading.create =
      { guildIconUploadIp := iconIp pairs
        guildIconUploadPort := iconPort pairs
        urlList :=
          (otherPairs pairs).flatMap fun pair => [pair.1, pair.2] } := by
  induction pairs using List.reverseRecOn with
  | nil => rfl
  | append_singleton pairs pair ih =>
      rw [List.foldl_append, ih, List.foldl_cons, List.foldl_nil,
        iconIp_snoc, iconPort_snoc, otherPairs_snoc]
      unfold UrlListReading.readPair portEntry
      by_cases hip : pair.1 = guildIconIpKey
      · have hport : pair.1 ≠ guildIconPortKey := by
          rw [hip]
          exact guildIconKeys_ne
        simp [hip, guildIconKeys_ne]
      · by_cases hport : pair.1 = guildIconPortKey
        · simp [hport, guildIconKeys_ne.symm]
        · simp [hip, hport]

theorem ofText_pairsText {pairs : List (Text × Text)}
    (h : Separable '|' pairs) :
    UrlListReading.ofText (pairsText '|' pairs) =
      { guildIconUploadIp := iconIp (readable pairs)
        guildIconUploadPort := iconPort (readable pairs)
        urlList :=
          (otherPairs (readable pairs)).flatMap fun pair =>
            [pair.1, pair.2] } := by
  rw [UrlListReading.ofText, readPairs_pairsText h, foldl_readPair]

namespace UploadState

variable (host : Host) (config : ClientConfig)

def uploadPort (s : UploadState) (pairs : List (Text × Text)) : Nat :=
  (s.manager.ensureListening host (s.basePort config)
    { serverIp := iconIp pairs
      serverPort := iconPort pairs }).1

def redirected (s : UploadState) (pairs : List (Text × Text)) :
    List (Text × Text) :=
  otherPairs pairs ++
    [(guildIconIpKey, config.gameExternalIp),
      (guildIconPortKey, convertToString (s.uploadPort host config pairs))]

def due (s : UploadState) (pairs : List (Text × Text)) :
    List (Text × Text) :=
  if AnnouncesIcons pairs then s.redirected host config pairs else pairs

def TouchesIconsOnly (s : UploadState) (pairs : List (Text × Text)) : Prop :=
  (s.onUrlList host config (pairsText '|' pairs)).1 =
    pairsText '|' (s.due host config pairs)

variable {host config}

theorem onUrlList_pairsText (s : UploadState) {pairs : List (Text × Text)}
    (h : Separable '|' pairs) :
    (s.onUrlList host config (pairsText '|' pairs)).1 =
      if AnnouncesIcons (readable pairs) then
        pairsText '|' (s.redirected host config (readable pairs))
      else pairsText '|' pairs := by
  unfold onUrlList
  rw [ofText_pairsText h]
  by_cases hicons : AnnouncesIcons (readable pairs)
  · rw [if_pos hicons]
    rw [AnnouncesIcons] at hicons
    simp only
    rw [if_pos hicons, dropLast_terminated]
    simp [pairsText, redirected, uploadPort]
  · rw [if_neg hicons]
    rw [AnnouncesIcons] at hicons
    simp only
    rw [if_neg hicons]

end UploadState

theorem length_pairsText (pairs : List (Text × Text)) (h : pairs ≠ []) :
    (pairsText '|' pairs).length + 1 =
      (pairs.map fun pair => pair.1.length + pair.2.length + 2).sum := by
  induction pairs with
  | nil => exact absurd rfl h
  | cons pair pairs ih =>
      cases pairs with
      | nil =>
          rw [pairsText_singleton]
          simp
          lia
      | cons next pairs =>
          have hrest := ih (List.cons_ne_nil _ _)
          rw [pairsText_cons_cons, List.map_cons, List.sum_cons, ← hrest]
          simp
          lia

theorem getLast?_pairsText (pairs : List (Text × Text)) (key value : Text) :
    (pairsText '|' (pairs ++ [(key, value)])).getLast? =
      some (value.getLast?.getD '|') := by
  induction pairs with
  | nil =>
      rw [List.nil_append, pairsText_singleton, List.getLast?_append]
      cases hvalue : value.getLast? with
      | none =>
          rw [List.getLast?_eq_none_iff.mp hvalue]
          rfl
      | some c => simp [List.getLast?_cons, hvalue]
  | cons pair pairs ih =>
      cases pairs with
      | nil =>
          rw [List.nil_append] at ih
          rw [List.cons_append, List.nil_append, pairsText_cons_cons]
          simp [List.getLast?_append, List.getLast?_cons, ih]
      | cons next pairs =>
          rw [List.cons_append] at ih
          rw [List.cons_append, List.cons_append, pairsText_cons_cons]
          simp [List.getLast?_append, List.getLast?_cons, ih]

theorem readable_snoc (pairs : List (Text × Text)) (key value : Text) :
    readable (pairs ++ [(key, value)]) =
      if value = [] then pairs else pairs ++ [(key, value)] := by
  unfold readable
  rw [List.getLast?_concat]
  cases value with
  | nil => simp
  | cons c value => simp

theorem not_bar_mem_convertToString (n : Nat) :
    '|' ∉ convertToString n := by
  intro hmem
  have hdigit := Nat.isDigit_of_mem_toDigits (b := 10) (by decide)
    (by decide) hmem
  exact absurd hdigit (by decide)

/--
The last pair has an empty value, it is not the upload port, and the pairs
before it announce where icons are uploaded to.
-/
def LosesLastPair (pairs : List (Text × Text)) : Prop :=
  exists init key, pairs = init ++ [(key, [])] ∧ key ≠ guildIconPortKey ∧
    AnnouncesIcons init

namespace UploadState

variable {host : Host} {config : ClientConfig}

theorem getLast?_redirected (s : UploadState)
    (pairs : List (Text × Text)) :
    (pairsText '|' (s.redirected host config pairs)).getLast? ≠ some '|' := by
  have hsplit : s.redirected host config pairs =
      (otherPairs pairs ++ [(guildIconIpKey, config.gameExternalIp)]) ++
        [(guildIconPortKey,
          convertToString (s.uploadPort host config pairs))] := by
    unfold redirected
    rw [List.append_assoc]
    rfl
  rw [hsplit, getLast?_pairsText]
  intro hbar
  have hne : convertToString (s.uploadPort host config pairs) ≠ [] :=
    Nat.toDigits_ne_nil
  rw [List.getLast?_eq_some_getLast hne, Option.getD_some] at hbar
  have hmem := List.getLast_mem hne
  rw [Option.some.inj hbar] at hmem
  exact not_bar_mem_convertToString _ hmem

theorem length_redirected_lt (host : Host) (config : ClientConfig)
    (s : UploadState) (init : List (Text × Text)) {key : Text}
    (hip : key ≠ guildIconIpKey) (hport : key ≠ guildIconPortKey) :
    (pairsText '|' (s.redirected host config init)).length <
      (pairsText '|'
        (s.redirected host config (init ++ [(key, [])]))).length := by
  have hentry : portEntry (key, []) = none := if_neg hport
  have hsame : s.uploadPort host config (init ++ [(key, [])]) =
      s.uploadPort host config init := by
    unfold uploadPort
    rw [iconIp_snoc, iconPort_snoc, if_neg hip, hentry, Option.getD_none]
  have hothers : otherPairs (init ++ [(key, [])]) =
      otherPairs init ++ [(key, [])] := by
    rw [otherPairs_snoc, if_pos ⟨hip, hport⟩]
  have hshort := length_pairsText (s.redirected host config init)
    (by simp [redirected])
  have hlong := length_pairsText
    (s.redirected host config (init ++ [(key, [])])) (by simp [redirected])
  unfold redirected at hshort hlong ⊢
  rw [hsame, hothers] at hlong ⊢
  simp only [List.map_append, List.sum_append, List.map_cons, List.map_nil,
    List.sum_cons, List.sum_nil] at hshort hlong
  lia

theorem due_snoc_port (s : UploadState) (init : List (Text × Text)) :
    s.due host config (init ++ [(guildIconPortKey, [])]) =
      if AnnouncesIcons init then s.redirected host config init
      else init ++ [(guildIconPortKey, [])] := by
  have hip : iconIp (init ++ [(guildIconPortKey, [])]) = iconIp init := by
    rw [iconIp_snoc, if_neg guildIconKeys_ne.symm]
  have hport : iconPort (init ++ [(guildIconPortKey, [])]) =
      iconPort init := by
    rw [iconPort_snoc]
    rfl
  have hothers : otherPairs (init ++ [(guildIconPortKey, [])]) =
      otherPairs init := by
    rw [otherPairs_snoc, if_neg (by simp), List.append_nil]
  have hicons : AnnouncesIcons (init ++ [(guildIconPortKey, [])]) ↔
      AnnouncesIcons init := by
    unfold AnnouncesIcons
    rw [hip, hport]
  have hredirected : s.redirected host config
      (init ++ [(guildIconPortKey, [])]) = s.redirected host config init := by
    unfold redirected uploadPort
    rw [hip, hport, hothers]
  unfold due
  rw [hredirected]
  by_cases hinit : AnnouncesIcons init
  · rw [if_pos (hicons.mpr hinit), if_pos hinit]
  · rw [if_neg fun h => hinit (hicons.mp h), if_neg hinit]

theorem announcesIcons_snoc_iff {init : List (Text × Text)} {key : Text}
    (hport : key ≠ guildIconPortKey) :
    AnnouncesIcons (init ++ [(key, [])]) ↔
      key ≠ guildIconIpKey ∧ AnnouncesIcons init := by
  have hentry : portEntry (key, []) = none := if_neg hport
  unfold AnnouncesIcons
  rw [iconIp_snoc, iconPort_snoc, hentry, Option.getD_none]
  by_cases hip : key = guildIconIpKey
  · rw [if_pos hip]
    constructor
    · intro hicons
      exact absurd rfl hicons.left
    · intro hicons
      exact absurd hip hicons.left
  · rw [if_neg hip]
    exact ⟨fun hicons => ⟨hip, hicons⟩, fun hicons => hicons.right⟩

/-- Rewriting is right as long as the last pair is not lost. -/
theorem touchesIconsOnly_iff (host : Host) (config : ClientConfig)
    (s : UploadState) {pairs : List (Text × Text)}
    (h : Separable '|' pairs) :
    s.TouchesIconsOnly host config pairs ↔ ¬LosesLastPair pairs := by
  unfold TouchesIconsOnly
  rw [onUrlList_pairsText s h]
  induction pairs using List.reverseRecOn with
  | nil =>
      constructor
      · rintro - ⟨init, key, hnil, -⟩
        exact absurd hnil (by simp)
      · intro _
        rfl
  | append_singleton init pair _ =>
      rcases pair with ⟨key, value⟩
      rw [readable_snoc]
      have hloses : LosesLastPair (init ++ [(key, value)]) ↔
          value = [] ∧ key ≠ guildIconPortKey ∧ AnnouncesIcons init := by
        constructor
        · rintro ⟨init', key', heq, hport, hicons⟩
          rcases List.append_inj' heq rfl with ⟨hinit, hpair⟩
          cases hinit
          cases hpair
          exact ⟨rfl, hport, hicons⟩
        · rintro ⟨hvalue, hport, hicons⟩
          exact ⟨init, key, by rw [hvalue], hport, hicons⟩
      rw [hloses]
      by_cases hvalue : value = []
      · subst hvalue
        rw [if_pos rfl]
        by_cases hport : key = guildIconPortKey
        · subst hport
          constructor
          · rintro - ⟨-, hne, -⟩
            exact hne rfl
          · intro _
            rw [due_snoc_port]
            split
            · rfl
            · rfl
        · by_cases hicons : AnnouncesIcons init
          · rw [if_pos hicons]
            constructor
            · intro htext
              exfalso
              by_cases hip : key = guildIconIpKey
              · -- the text should be left alone, and it ends with a bar
                have hdue : s.due host config (init ++ [(key, [])]) =
                    init ++ [(key, [])] := by
                  apply if_neg
                  rw [announcesIcons_snoc_iff hport]
                  exact fun hboth => hboth.left hip
                rw [hdue] at htext
                apply getLast?_redirected s init
                rw [htext, getLast?_pairsText]
                rfl
              · -- the text should have the pair that was lost
                have hdue : s.due host config (init ++ [(key, [])]) =
                    s.redirected host config (init ++ [(key, [])]) := by
                  apply if_pos
                  rw [announcesIcons_snoc_iff hport]
                  exact ⟨hip, hicons⟩
                have hlt := length_redirected_lt host config s init hip hport
                rw [hdue] at htext
                rw [htext] at hlt
                exact Nat.lt_irrefl _ hlt
            · intro hnot
              exact absurd ⟨rfl, hport, hicons⟩ hnot
          · rw [if_neg hicons]
            constructor
            · rintro - ⟨-, -, hboth⟩
              exact hicons hboth
            · intro _
              have hdue : s.due host config (init ++ [(key, [])]) =
                  init ++ [(key, [])] := by
                apply if_neg
                rw [announcesIcons_snoc_iff hport]
                exact fun hboth => hicons hboth.right
              rw [hdue]
      · rw [if_neg hvalue]
        constructor
        · rintro - ⟨hnil, -⟩
          exact hvalue hnil
        · intro _
          unfold due
          split
          · rfl
          · rfl

/-- A session of a filter that has no listener yet. -/
def start : UploadState where
  manager := GameClientSessionManager.create [4500]
  uploadBasePort := 0

/-- The icon entries, and a page in front of or behind them. -/
def iconPairs : List (Text × Text) :=
  [(guildIconIpKey, "10.0.0.1".toList), (guildIconPortKey, "4617".toList)]

theorem touchesIconsOnly_pageFirst :
    start.TouchesIconsOnly GameClientSessionManager.idleHost
      GameClientSessionManager.localConfig
      (("web".toList, []) :: iconPairs) := by
  apply (touchesIconsOnly_iff _ _ _ (by unfold Separable; decide)).mpr
  rintro ⟨init, key, heq, -⟩
  have hlast := congrArg List.getLast? heq
  rw [List.getLast?_concat] at hlast
  exact absurd hlast (by simp [iconPairs])

/-- An empty page behind the icon entries gets lost. -/
theorem not_touchesIconsOnly_pageLast :
    ¬start.TouchesIconsOnly GameClientSessionManager.idleHost
      GameClientSessionManager.localConfig
      (iconPairs ++ [("web".toList, [])]) := by
  unfold TouchesIconsOnly
  decide +kernel

end UploadState

end Filter
end Rzu
