/-
# Names of hosts in common characters

The common characters are those of the first half of a byte.  Whatever the name of a host is, what
is sent over the network has no others (`isAscii_encode?`).

Most names have no others in the first place, and no label that is written in others.  For such a
name no table is asked: what is sent is the name in small letters (`encode?_of_ordinary`).  So an
ordinary host is read the same in whatever letters it is written (`known?_eq_of_ordinary`).
-/
import SchemaMock.Proofs.Marks

namespace SchemaMock

namespace Text

/-- Putting the separators back gives the text. -/
theorem joinWith_cut (separator : Char) (cs : List Char) :
    joinWith separator (cut separator cs) = cs := by
  induction cs with
  | nil => rfl
  | cons c rest ih =>
    obtain ⟨first, pieces, hcut⟩ := List.exists_cons_of_ne_nil (cut_ne_nil separator rest)
    rw [hcut, joinWith_cons] at ih
    unfold cut
    split
    · next h =>
      rw [hcut, joinWith_cons, List.flatMap_cons, List.nil_append, List.cons_append, ih, h]
    · rw [hcut, joinWith_cons, List.cons_append, ih]

theorem isAscii_toLower {c : Char} (h : isAscii c = true) : isAscii c.toLower = true := by
  unfold Char.toLower
  split
  · next hupper =>
    have hlow : 65 ≤ c.val.toNat := hupper.1
    have hhigh : c.val.toNat ≤ 90 := hupper.2
    have hsum : (c.val + ('a'.val - 'A'.val)).toNat = c.val.toNat + 32 := by
      have hadd : (c.val + ('a'.val - 'A'.val)).toNat = (c.val.toNat + 32) % 2 ^ 32 := rfl
      omega
    exact decide_eq_true (show (c.val + ('a'.val - 'A'.val)).toNat < 128 by omega)
  · exact h

end Text

namespace Url.Name

open Text (isAscii)

variable {cs label name : List Char}

/-! ## 1. Common characters -/

theorem plainForm_of_ascii (h : ∀ c ∈ cs, isAscii c = true) :
    cs.flatMap plainForm = cs.map Char.toLower := by
  induction cs with
  | nil => rfl
  | cons c rest ih =>
    obtain ⟨hc, hrest⟩ := List.forall_mem_cons.mp h
    have hplain : plainForm c = [c.toLower] := by rw [plainForm, if_pos hc]
    rw [List.flatMap_cons, ih hrest, hplain, List.singleton_append, List.map_cons]

theorem decomposed_of_ascii {most : Nat} {c : Char} (h : isAscii c = true) :
    decomposed most c = [c] := by
  cases most with
  | zero => rw [decomposed]
  | succ most => rw [decomposed, if_pos h]

theorem markClass_of_ascii {c : Char} (h : isAscii c = true) : markClass c = 0 := by
  rw [markClass, if_pos h]

theorem insertMark_of_ascii {c : Char} (h : isAscii c = true) : insertMark c cs = c :: cs := by
  cases cs with
  | nil => rfl
  | cons d rest => rw [insertMark, markClass_of_ascii h, if_neg (by omega)]

theorem composedFrom_of_ascii {c : Char} (h : ∀ d ∈ cs, isAscii d = true) :
    composedFrom c [] cs = c :: cs := by
  induction cs generalizing c with
  | nil => rfl
  | cons d rest ih =>
    obtain ⟨hd, hrest⟩ := List.forall_mem_cons.mp h
    have hwhole : composite? c d = none := by rw [composite?, if_pos hd]
    simp [composedFrom, hwhole, markClass_of_ascii hd, ih hrest]

/-- Common characters have nothing to be composed of. -/
theorem composed_of_ascii (h : ∀ c ∈ cs, isAscii c = true) : composed cs = cs := by
  have hsorted : (cs.flatMap (decomposed 3)).foldr insertMark [] = cs := by
    induction cs with
    | nil => rfl
    | cons c rest ih =>
      obtain ⟨hc, hrest⟩ := List.forall_mem_cons.mp h
      rw [List.flatMap_cons, decomposed_of_ascii hc, List.singleton_append, List.foldr_cons,
        ih hrest, insertMark_of_ascii hc]
  rw [composed, hsorted]
  cases cs with
  | nil => rfl
  | cons c rest => exact composedFrom_of_ascii fun d hd => h d (List.mem_cons_of_mem c hd)

theorem joinersFit_of_ascii {before : List Char} (h : ∀ c ∈ cs, isAscii c = true) :
    joinersFit before cs = true := by
  induction cs generalizing before with
  | nil => rfl
  | cons c rest ih =>
    obtain ⟨hc, hrest⟩ := List.forall_mem_cons.mp h
    have hapart : c ≠ '\u200C' := by
      rintro rfl
      exact absurd hc (by decide)
    have htogether : c ≠ '\u200D' := by
      rintro rfl
      exact absurd hc (by decide)
    simp [joinersFit, hapart, htogether, ih hrest]

theorem not_isMixed_of_ascii (h : ∀ c ∈ cs, isAscii c = true) : isMixed cs = false := by
  rw [isMixed, List.any_eq_false]
  intro c hc
  rw [direction, if_pos (h c hc)]
  split
  · decide
  · split
    all_goals decide

/-! ## 2. Labels -/

/-- A label that is written as it is. -/
def Label.common (text : List Char) : Label := ⟨text, text⟩

theorem Label.ofText?_of_ascii (h : ∀ c ∈ label, isAscii c = true) (hne : ¬ encodedMark <+: label) :
    Label.ofText? label = some (common label) := by
  have hencode : encodeLabel label = label := by rw [encodeLabel, if_pos (List.all_eq_true.mpr h)]
  rw [Label.ofText?, if_neg (by rwa [List.isPrefixOf_iff_prefix]), hencode, common]

theorem Label.isSound_common (h : ∀ c ∈ label, isAscii c = true) :
    (common label).isSound = true := by
  have hallowed : label.all isAllowed = true := by
    rw [List.all_eq_true]
    intro c hc
    rw [isAllowed, h c hc, Bool.true_or]
  have hmark : label.head?.any isMark = false := by
    cases label with
    | nil => rfl
    | cons c rest =>
      have hc := h c List.mem_cons_self
      simp [isMark, hc]
  simp [isSound, common, hallowed, hmark, joinersFit_of_ascii h]

/-! ## 3. Names -/

/-- A name of common characters, none of whose labels is written in others. -/
structure Ordinary (name : List Char) : Prop where
  ascii : ∀ c ∈ name, isAscii c = true
  notEncoded : ∀ label ∈ Text.cut '.' (name.map Char.toLower), ¬ encodedMark <+: label

/-- **An ordinary name is sent in small letters.** -/
theorem encode?_of_ordinary (h : Ordinary name) : encode? name = some (name.map Char.toLower) := by
  have hlower : ∀ c ∈ name.map Char.toLower, isAscii c = true :=
    List.forall_mem_map.mpr fun c hc => Text.isAscii_toLower (h.ascii c hc)
  have hascii : ∀ label ∈ Text.cut '.' (name.map Char.toLower), ∀ c ∈ label, isAscii c = true :=
    fun label hlabel c hc => hlower c (Text.mem_of_mem_cut hlabel hc)
  have hread : ∀ labels : List (List Char),
      (∀ label ∈ labels, Label.ofText? label = some (.common label)) →
      labels.mapM Label.ofText? = some (labels.map Label.common) := by
    intro labels hlabels
    induction labels with
    | nil => rfl
    | cons label rest ih =>
      obtain ⟨hlabel, hrest⟩ := List.forall_mem_cons.mp hlabels
      rw [List.mapM_cons, hlabel, ih hrest]
      rfl
  have hlabels := hread _ fun label hlabel =>
    Label.ofText?_of_ascii (hascii label hlabel) (h.notEncoded label hlabel)
  have hsound : ((Text.cut '.' (name.map Char.toLower)).map .common).all Label.isSound = true := by
    rw [List.all_map, List.all_eq_true]
    exact fun label hlabel => Label.isSound_common (hascii label hlabel)
  have hmixed : ((Text.cut '.' (name.map Char.toLower)).map .common).any
      (fun l : Label => isMixed l.chars) = false := by
    rw [List.any_map, List.any_eq_false]
    intro label hlabel
    rw [Function.comp_apply, Label.common, not_isMixed_of_ascii (hascii label hlabel)]
    exact Bool.false_ne_true
  have hwritten : ((Text.cut '.' (name.map Char.toLower)).map .common).map Label.written
      = Text.cut '.' (name.map Char.toLower) := (List.map_map ..).trans (List.map_id _)
  rw [encode?, plainForm_of_ascii h.ascii, composed_of_ascii hlower, hlabels, Option.bind_eq_bind,
    Option.bind_some, if_pos, hwritten, Text.joinWith_cut]
  rw [hsound, hmixed, Bool.not_false, Bool.or_true, Bool.and_true]

example : encode? "Example.ORG".toList = some "example.org".toList := by rfl

/-! ## 4. What is sent -/

/-! ### Digits -/

theorem threshold_bounds (place bias : Nat) :
    1 ≤ threshold place bias ∧ threshold place bias ≤ 26 := by
  unfold threshold
  split
  · omega
  · split <;> omega

theorem isAscii_deltaDigit {n : Nat} (h : n < 36) : isAscii (deltaDigit n) = true :=
  (by decide : ∀ n < 36, isAscii (deltaDigit n) = true) n h

theorem isAscii_deltaDigits (bias : Nat) : ∀ fuel place q : Nat,
    ∀ c ∈ deltaDigits bias fuel place q, isAscii c = true
  | 0, _, _ => List.forall_mem_nil _
  | fuel + 1, place, q => by
    have hbounds := threshold_bounds place bias
    rw [deltaDigits]
    split
    · exact List.forall_mem_singleton.mpr (isAscii_deltaDigit (by omega))
    · refine List.forall_mem_cons.mpr ⟨isAscii_deltaDigit ?_, isAscii_deltaDigits bias fuel _ _⟩
      have hmod : (q - threshold place bias) % (36 - threshold place bias)
          < 36 - threshold place bias := Nat.mod_lt _ (by omega)
      omega

theorem isAscii_of_deltaValue? {c : Char} {n : Nat} (h : deltaValue? c = some n) :
    isAscii c = true := by
  unfold deltaValue? at h
  split at h
  · next hlower =>
    exact decide_eq_true (Nat.lt_of_le_of_lt (UInt32.le_iff_toNat_le.mp (of_decide_eq_true
      (Bool.and_eq_true_iff.mp hlower).2)) (by decide : 'z'.toNat < 128))
  · split at h
    · next hdigit =>
      exact decide_eq_true (Nat.lt_of_le_of_lt (UInt32.le_iff_toNat_le.mp (of_decide_eq_true
        (Bool.and_eq_true_iff.mp hdigit).2)) (by decide : '9'.toNat < 128))
    · cases h

/-! ### Encoded labels -/

theorem isAscii_step {reached : Nat} {s : LabelState} {c : Char}
    (h : ∀ d ∈ s.digits, isAscii d = true) : ∀ d ∈ (s.step reached c).digits, isAscii d = true := by
  unfold LabelState.step
  split
  · exact h
  · split
    · refine List.forall_mem_append.mpr ⟨fun d hd => ?_, h⟩
      exact isAscii_deltaDigits _ _ _ _ d (List.mem_reverse.mp hd)
    · exact h

theorem isAscii_labelRounds : ∀ {rounds : Nat} {s : LabelState},
    (∀ d ∈ s.digits, isAscii d = true) → ∀ d ∈ (labelRounds label rounds s).digits, isAscii d = true
  | 0, _, h => h
  | rounds + 1, s, h => by
    rw [labelRounds]
    split
    · exact h
    · have hfold : ∀ (cs : List Char) (s : LabelState) (reached : Nat),
          (∀ d ∈ s.digits, isAscii d = true) →
          ∀ d ∈ (cs.foldl (LabelState.step reached) s).digits, isAscii d = true := by
        intro cs s reached hs
        induction cs generalizing s with
        | nil => exact hs
        | cons c rest ih => exact ih _ (isAscii_step hs)
      exact isAscii_labelRounds (hfold _ _ _ h)

theorem isAscii_encodedMark : ∀ c ∈ encodedMark, isAscii c = true := List.all_eq_true.mp rfl

/-- An encoded label has common characters only. -/
theorem isAscii_encodeLabel (label : List Char) : ∀ c ∈ encodeLabel label, isAscii c = true := by
  unfold encodeLabel
  split
  · next h => exact List.all_eq_true.mp h
  · refine List.forall_mem_append.mpr
      ⟨List.forall_mem_append.mpr ⟨isAscii_encodedMark, ?_⟩, fun c hc => ?_⟩
    · split
      · exact List.forall_mem_nil _
      · exact List.forall_mem_append.mpr
          ⟨fun c hc => (List.mem_filter.mp hc).2, List.forall_mem_singleton.mpr rfl⟩
    · exact isAscii_labelRounds (List.forall_mem_nil _) c (List.mem_reverse.mp hc)

theorem isAscii_readDelta? {bias : Nat} : ∀ {cs rest : List Char} {place weight delta total : Nat},
    readDelta? bias place weight delta cs = some (total, rest) →
    (∀ c ∈ rest, isAscii c = true) → ∀ c ∈ cs, isAscii c = true
  | [], _, _, _, _, _, _, _ => List.forall_mem_nil _
  | c :: cs, rest, place, weight, delta, total, h, hrest => by
    rw [readDelta?] at h
    obtain ⟨digit, hdigit, h⟩ := Option.bind_eq_some_iff.mp h
    refine List.forall_mem_cons.mpr ⟨isAscii_of_deltaValue? hdigit, ?_⟩
    dsimp only at h
    split at h
    · cases h
      exact hrest
    · exact isAscii_readDelta? h hrest

theorem isAscii_putDeltas? : ∀ {fuel bias reached place : Nat} {label digits result : List Char},
    putDeltas? bias reached place label fuel digits = some result →
    ∀ c ∈ digits, isAscii c = true
  | _, _, _, _, _, [], _, _ => List.forall_mem_nil _
  | 0, _, _, _, _, _ :: _, _, h => by cases h
  | fuel + 1, bias, reached, place, label, c :: rest, result, h => by
    rw [putDeltas?] at h
    · obtain ⟨⟨delta, behind⟩, hread, h⟩ := Option.bind_eq_some_iff.mp h
      dsimp only at h
      split at h
      · exact isAscii_readDelta? hread (isAscii_putDeltas? h)
      · cases h
    · exact List.cons_ne_nil _ _

/-- A label that can be decoded has common characters only. -/
theorem isAscii_of_decodeLabel? {text : List Char} (h : decodeLabel? text = some label) :
    ∀ c ∈ text, isAscii c = true := by
  unfold decodeLabel? at h
  dsimp only at h
  split at h
  · next hbasic =>
    split at h
    · exact isAscii_putDeltas? h
    · next hne =>
      have hdigits := isAscii_putDeltas? h
      generalize hlast : text.reverse.takeWhile (· ≠ '-') = last at hbasic hne hdigits
      have htext : text.reverse = last ++ text.reverse.dropWhile (· ≠ '-') :=
        hlast ▸ List.takeWhile_append_dropWhile.symm
      cases hback : text.reverse.dropWhile (· ≠ '-') with
      | nil =>
        -- Without a hyphen there is nothing in front of the digits.
        rw [hback, List.append_nil] at htext
        have hlength : text.length = last.length := by rw [← htext, List.length_reverse]
        simp [hlength] at hne
      | cons hyphen front =>
        have hhyphen : hyphen = '-' := by
          have hhead := List.head?_dropWhile_not (fun c : Char => decide (c ≠ '-')) text.reverse
          rw [hback] at hhead
          simpa using hhead
        have hwhole : text = front.reverse ++ '-' :: last.reverse := by
          rw [hback, hhyphen] at htext
          rw [← List.reverse_reverse text, htext]
          simp
        have hfront : text.take (text.length - (last.reverse.length + 1)) = front.reverse := by
          rw [hwhole]
          simp
        rw [hfront] at hbasic
        rw [hwhole]
        exact List.forall_mem_append.mpr ⟨List.all_eq_true.mp hbasic,
          List.forall_mem_cons.mpr ⟨rfl, hdigits⟩⟩
  · cases h

/-! ### Names -/

theorem Label.isAscii_written {text : List Char} {l : Label} (h : Label.ofText? text = some l) :
    ∀ c ∈ l.written, isAscii c = true := by
  unfold Label.ofText? at h
  split at h
  · next hmark =>
    obtain ⟨chars, hdecode, h⟩ := Option.bind_eq_some_iff.mp h
    split at h
    · cases h
    · cases h
      obtain ⟨rest, rfl⟩ := List.isPrefixOf_iff_prefix.mp hmark
      rw [List.drop_left] at hdecode
      exact List.forall_mem_append.mpr ⟨isAscii_encodedMark, isAscii_of_decodeLabel? hdecode⟩
  · cases h
    exact isAscii_encodeLabel text

theorem labels_of_mapM : ∀ {texts : List (List Char)} {labels : List Label},
    texts.mapM Label.ofText? = some labels → ∀ l ∈ labels, ∃ text, Label.ofText? text = some l
  | [], _, h, _, hl => by
    cases h
    cases hl
  | text :: rest, labels, h, l, hl => by
    rw [List.mapM_cons] at h
    obtain ⟨first, hfirst, h⟩ := Option.bind_eq_some_iff.mp h
    obtain ⟨others, hothers, h⟩ := Option.bind_eq_some_iff.mp h
    cases h
    rcases List.mem_cons.mp hl with rfl | hl
    · exact ⟨text, hfirst⟩
    · exact labels_of_mapM hothers l hl

/-- **Common characters only are sent.** -/
theorem isAscii_encode? {sent : List Char} (h : encode? name = some sent) :
    ∀ c ∈ sent, isAscii c = true := by
  obtain ⟨labels, hlabels, h⟩ := Option.bind_eq_some_iff.mp h
  split at h
  · cases h
    intro c hc
    rcases Text.mem_joinWith hc with rfl | ⟨piece, hpiece, hc⟩
    · decide
    · obtain ⟨l, hl, rfl⟩ := List.mem_map.mp hpiece
      obtain ⟨text, htext⟩ := labels_of_mapM hlabels l hl
      exact Label.isAscii_written htext c hc
  · cases h

end Url.Name

namespace Url.Host

open Name (Ordinary)

/-- **The case of the letters of an ordinary host does not matter.** -/
theorem known?_eq_of_ordinary {cs cs' name name' : List Char} (hcs : decode? cs = some name)
    (hcs' : decode? cs' = some name') (h : Ordinary name) (h' : Ordinary name')
    (hcase : name.map Char.toLower = name'.map Char.toLower) (hopen : cs.head? ≠ some '[')
    (hopen' : cs'.head? ≠ some '[') : known? cs = known? cs' := by
  have hread : ∀ {cs name : List Char}, decode? cs = some name → Ordinary name →
      cs.head? ≠ some '[' → known? cs = (some (name.map Char.toLower)).bind fun name =>
        if name.isEmpty ∨ name.any isForbiddenInName then none
        else if endsInNumber name then four? name
        else some name := by
    intro cs name hdecode hname hhead
    unfold known?
    split
    · exact absurd rfl hhead
    · rw [hdecode]
      exact congrArg (Option.bind · _) (Name.encode?_of_ordinary hname)
  rw [hread hcs h hopen, hread hcs' h' hopen', hcase]

end Url.Host

end SchemaMock
