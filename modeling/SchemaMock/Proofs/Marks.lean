/-
# Parts of URLs without marks

The mark `#` stands between a URL and its fragment, and nowhere else in a URL.  Encoding makes no
mark, as the digits of an encoded byte are none, and neither does writing numbers; so a path, a host
and an authority that are read from a text without a mark have none.  Only a host is decoded, and a
host with a mark in it is refused.
-/
import Mathlib.Data.List.TakeWhile
import SchemaMock.Proofs.UrlTexts

namespace SchemaMock

/-! ## 1. Characters -/

namespace Url

/-- What is no digit of any base up to sixteen is written as a star. -/
theorem digitChar_of_le {n : Nat} (h : 16 ≤ n) : Nat.digitChar n = '*' := by
  unfold Nat.digitChar
  repeat rw [if_neg (by omega)]

theorem digitChar_ne_mark (n : Nat) : Nat.digitChar n ≠ '#' := by
  rcases Nat.lt_or_ge n 16 with h | h
  · exact (by decide : ∀ n < 16, Nat.digitChar n ≠ '#') n h
  · rw [digitChar_of_le h]
    decide

theorem hexDigit_ne_mark (n : Nat) : hexDigit n ≠ '#' := by
  rcases Nat.lt_or_ge n 16 with h | h
  · exact (by decide : ∀ n < 16, hexDigit n ≠ '#') n h
  · rw [hexDigit, digitChar_of_le h]
    decide

theorem mem_toDigitsCore {base : Nat} {c : Char} : ∀ {fuel n : Nat} {done : List Char},
    c ∈ Nat.toDigitsCore base fuel n done → c ∈ done ∨ ∃ d, c = Nat.digitChar d
  | 0, _, _, h => Or.inl h
  | fuel + 1, n, done, h => by
    rw [Nat.toDigitsCore] at h
    split at h
    · exact (List.mem_cons.mp h).elim (fun h => Or.inr ⟨_, h⟩) Or.inl
    · rcases mem_toDigitsCore h with h | h
      · exact (List.mem_cons.mp h).elim (fun h => Or.inr ⟨_, h⟩) Or.inl
      · exact Or.inr h

/-- The digits of a number are no marks. -/
theorem mark_notMem_toDigits (base n : Nat) : '#' ∉ Nat.toDigits base n := by
  intro h
  rcases mem_toDigitsCore h with h | ⟨d, h⟩
  · exact absurd h List.not_mem_nil
  · exact digitChar_ne_mark d h.symm

theorem mark_notMem_repr (n : Nat) : '#' ∉ (Nat.repr n).toList := by
  rw [Nat.repr, String.toList_ofList]
  exact mark_notMem_toDigits 10 n

theorem mark_notMem_encodeByte (byte : Nat) : '#' ∉ encodeByte byte := by
  simp only [encodeByte, List.mem_cons, List.not_mem_nil, or_false, not_or]
  exact ⟨by decide, (hexDigit_ne_mark _).symm, (hexDigit_ne_mark _).symm⟩

/-- Encoding makes no mark, and leaves none that it encodes. -/
theorem mark_notMem_encode {inSet : Char → Bool} {cs : List Char}
    (h : inSet '#' = true ∨ '#' ∉ cs) : '#' ∉ encode inSet cs := by
  intro hmem
  obtain ⟨c, hc, hmem⟩ := List.mem_flatMap.mp hmem
  split at hmem
  · obtain ⟨byte, -, hmem⟩ := List.mem_flatMap.mp hmem
    exact mark_notMem_encodeByte byte hmem
  · next hout =>
    cases List.mem_singleton.mp hmem
    exact h.elim hout fun hnot => hnot hc

theorem toLower_ne_mark {c : Char} (h : c ≠ '#') : c.toLower ≠ '#' := by
  unfold Char.toLower
  split
  · next hupper =>
    intro heq
    have hval : c.val + ('a'.val - 'A'.val) = '#'.val := congrArg Char.val heq
    have hlow : 65 ≤ c.val.toNat := hupper.1
    have hhigh : c.val.toNat ≤ 90 := hupper.2
    have hsum : (c.val.toNat + 32) % 2 ^ 32 = 35 := congrArg UInt32.toNat hval
    omega
  · exact h

end Url

/-! ## 2. Pieces of texts -/

namespace Text

/-- A piece of a text has no other characters. -/
theorem mem_of_mem_cut {separator c : Char} {piece : List Char} : ∀ {cs : List Char},
    piece ∈ cut separator cs → c ∈ piece → c ∈ cs
  | [], hpiece, hc => by
    rw [cut, List.mem_singleton] at hpiece
    exact hpiece ▸ hc
  | d :: rest, hpiece, hc => by
    rw [cut] at hpiece
    split at hpiece
    · rcases List.mem_cons.mp hpiece with rfl | hpiece
      · exact absurd hc List.not_mem_nil
      · exact List.mem_cons_of_mem _ (mem_of_mem_cut hpiece hc)
    · cases hrest : cut separator rest with
      | nil => exact absurd hrest (cut_ne_nil separator rest)
      | cons first pieces =>
        have ih : ∀ p ∈ first :: pieces, c ∈ p → c ∈ rest := by
          intro p hp hcp
          exact mem_of_mem_cut (hrest ▸ hp) hcp
        rw [hrest] at hpiece
        rcases List.mem_cons.mp hpiece with rfl | hpiece
        · rcases List.mem_cons.mp hc with rfl | hc
          · exact List.mem_cons_self
          · exact List.mem_cons_of_mem _ (ih first List.mem_cons_self hc)
        · exact List.mem_cons_of_mem _ (ih piece (List.mem_cons_of_mem _ hpiece) hc)

theorem splitFirst_fst_subset (separator : Char) (cs : List Char) :
    (splitFirst separator cs).1 ⊆ cs := by
  unfold splitFirst
  split
  · exact List.Subset.refl cs
  · exact (List.takeWhile_sublist _).subset

theorem splitFirst_snd_subset {separator : Char} {cs back : List Char}
    (h : (splitFirst separator cs).2 = some back) : back ⊆ cs := by
  unfold splitFirst at h
  split at h
  · cases h
  · next heq =>
    cases h
    have hback := (List.dropWhile_sublist (p := (· ≠ separator)) (l := cs)).subset
    rw [heq] at hback
    exact fun c hc => hback (List.mem_cons_of_mem _ hc)

end Text

/-! ## 3. Paths and hosts -/

namespace Url

namespace Segments

/-- No segment has a mark. -/
def Unmarked (segments : Segments) : Prop := ∀ segment ∈ segments, '#' ∉ segment

theorem unmarked_singleton {segment : List Char} (h : '#' ∉ segment) : Unmarked [segment] := by
  intro s hs
  exact List.mem_singleton.mp hs ▸ h

theorem unmarked_empty : Unmarked [] := fun _ h => absurd h List.not_mem_nil

theorem unmarked_nil : Unmarked [[]] := unmarked_singleton List.not_mem_nil

theorem Unmarked.of_subset {segments inner : Segments} (h : Unmarked segments)
    (hsub : inner ⊆ segments) : Unmarked inner :=
  fun segment hs => h segment (hsub hs)

theorem Unmarked.reverse {segments : Segments} (h : Unmarked segments) :
    Unmarked segments.reverse :=
  fun segment hs => h segment (List.mem_reverse.mp hs)

theorem mark_notMem_plainDrive {segment : List Char} (h : '#' ∉ segment) :
    '#' ∉ plainDrive segment := by
  intro hmem
  rcases List.mem_append.mp hmem with hmem | hmem
  · exact h (List.mem_of_mem_take hmem)
  · exact absurd hmem (by decide)

/-- A walk along unmarked segments from unmarked directories sets no mark. -/
theorem Unmarked.walk {isFile : Bool} {directories segments : Segments}
    (hdirectories : Unmarked directories) (h : Unmarked segments) :
    Unmarked (walk isFile directories segments) := by
  intro segment hmem
  rcases mem_walk hmem with hmem | rfl | ⟨told, htold, -, -, rfl | ⟨-, rfl⟩⟩
  · exact hdirectories segment hmem
  · exact List.not_mem_nil
  · exact h segment htold
  · exact mark_notMem_plainDrive (h told htold)

theorem Unmarked.trimFront {segments : Segments} (h : Unmarked segments) :
    Unmarked (trimFront segments) := by
  unfold Segments.trimFront
  split
  · exact unmarked_nil
  · exact h.of_subset (List.dropWhile_sublist _).subset

theorem Unmarked.render {segments : Segments} (h : Unmarked segments) : '#' ∉ segments.render := by
  intro hmem
  obtain ⟨segment, hs, hmem⟩ := List.mem_flatMap.mp hmem
  rcases List.mem_cons.mp hmem with heq | hmem
  · exact absurd heq (by decide)
  · exact h segment hs hmem

end Segments

theorem unmarked_segmentsOf (kind : SchemeKind) {cs : List Char} (h : '#' ∉ cs) :
    (segmentsOf kind cs).Unmarked := by
  have hslanted :
      '#' ∉ if kind.isKnown then cs.map fun c => if c = '\\' then '/' else c else cs := by
    split
    · intro hmem
      obtain ⟨c, hc, heq⟩ := List.mem_map.mp hmem
      split at heq
      · exact absurd heq (by decide)
      · exact h (heq ▸ hc)
    · exact h
  intro segment hsegment
  obtain ⟨piece, hpiece, rfl⟩ := List.mem_map.mp hsegment
  exact mark_notMem_encode (.inr fun hmem => hslanted (Text.mem_of_mem_cut hpiece hmem))

theorem unmarked_pathFrom (kind : SchemeKind) {directories : Segments} {cs : List Char}
    (hdirectories : directories.Unmarked) (h : '#' ∉ cs) :
    (pathFrom kind directories cs).Unmarked := by
  have hwalk : (Segments.walk (kind == .file) directories (segmentsOf kind cs)).Unmarked :=
    hdirectories.walk (unmarked_segmentsOf kind h)
  unfold pathFrom
  split
  · exact hwalk.trimFront
  · exact hwalk

theorem unmarked_pathFromRoot (kind : SchemeKind) {cs : List Char} (h : '#' ∉ cs) :
    (pathFromRoot kind cs).Unmarked := by
  unfold pathFromRoot
  split
  · split
    · exact unmarked_pathFrom kind Segments.unmarked_empty
        fun hmem => h (List.mem_cons_of_mem _ hmem)
    · exact unmarked_pathFrom kind Segments.unmarked_empty h
  · exact unmarked_pathFrom kind Segments.unmarked_empty h

namespace Host

theorem mark_notMem_renderFour (n : Nat) : '#' ∉ renderFour n := by
  simp [renderFour, mark_notMem_toDigits]

theorem mark_notMem_joinWith {separator : Char} (hne : separator ≠ '#')
    {pieces : List (List Char)} (h : ∀ piece ∈ pieces, '#' ∉ piece) :
    '#' ∉ Text.joinWith separator pieces := by
  intro hmem
  rcases Text.mem_joinWith hmem with heq | ⟨piece, hpiece, hmem⟩
  · exact hne heq.symm
  · exact h piece hpiece hmem

theorem mark_notMem_renderSixteen (pieces : List Nat) : '#' ∉ renderSixteen pieces := by
  have hrender : ∀ ps : List Nat, '#' ∉ Text.joinWith ':' (ps.map fun n => Nat.toDigits 16 n) := by
    intro ps
    refine mark_notMem_joinWith (by decide) fun piece hpiece => ?_
    obtain ⟨n, -, rfl⟩ := List.mem_map.mp hpiece
    exact mark_notMem_toDigits 16 n
  simp only [renderSixteen]
  split
  · simp [hrender]
  · simp [hrender, -List.map_take, -List.map_drop]

/-- A host of a network has no mark, whatever it is read from. -/
theorem mark_notMem_known {cs host : List Char} (h : known? cs = some host) : '#' ∉ host := by
  unfold known? at h
  split at h
  · split at h
    · obtain ⟨pieces, -, rfl⟩ := Option.map_eq_some_iff.mp h
      exact mark_notMem_renderSixteen pieces
    · cases h
  · obtain ⟨decoded, -, h⟩ := Option.bind_eq_some_iff.mp h
    obtain ⟨name, -, h⟩ := Option.bind_eq_some_iff.mp h
    split at h
    · cases h
    · next hfree =>
      split at h
      · obtain ⟨numbers, -, h⟩ := Option.bind_eq_some_iff.mp h
        obtain ⟨last, -, h⟩ := Option.bind_eq_some_iff.mp h
        dsimp only at h
        split at h
        · cases h
        · cases h
          exact mark_notMem_renderFour _
      · cases h
        intro hmem
        exact hfree (Or.inr (List.any_eq_true.mpr ⟨'#', hmem, by decide⟩))

/-- The host of another scheme is taken as it is. -/
theorem mark_notMem_other {cs host : List Char} (hcs : '#' ∉ cs) (h : other? cs = some host) :
    '#' ∉ host := by
  unfold other? at h
  split at h
  · split at h
    · obtain ⟨pieces, -, rfl⟩ := Option.map_eq_some_iff.mp h
      exact mark_notMem_renderSixteen pieces
    · cases h
  · split at h
    · cases h
    · cases h
      exact mark_notMem_encode (.inr hcs)

end Host

/-! ## 4. Authorities -/

theorem mark_notMem_marked {mark : Char} (hne : mark ≠ '#') {part : Option (List Char)}
    (h : ∀ cs, part = some cs → '#' ∉ cs) : '#' ∉ marked mark part := by
  cases part with
  | none => exact List.not_mem_nil
  | some cs => simpa [marked, Ne.symm hne] using h cs rfl

/-- The parts of an authority have no mark. -/
structure Authority.Unmarked (a : Authority) : Prop where
  user : '#' ∉ a.user
  host : '#' ∉ a.host

theorem Authority.Unmarked.render {a : Authority} (h : a.Unmarked) : '#' ∉ a.render := by
  have hport : '#' ∉ marked ':' (a.port.map fun n => (Nat.repr n).toList) := by
    refine mark_notMem_marked (by decide) fun cs heq => ?_
    obtain ⟨n, -, rfl⟩ := Option.map_eq_some_iff.mp heq
    exact mark_notMem_repr n
  have huser : '#' ∉ if a.user.isEmpty then [] else a.user ++ ['@'] := by
    split
    · exact List.not_mem_nil
    · simp [h.user]
  rw [Authority.render]
  simp only [List.mem_append, not_or]
  exact ⟨⟨huser, h.host⟩, hport⟩

theorem mark_notMem_userOf {cs : List Char} (h : '#' ∉ cs) : '#' ∉ userOf cs := by
  have hname := Text.splitFirst_fst_subset ':' cs
  rcases hsplit : Text.splitFirst ':' cs with ⟨name, back⟩
  rw [hsplit] at hname
  simp only [userOf, hsplit, List.mem_append, not_or]
  refine ⟨mark_notMem_encode (.inr fun hmem => h (hname hmem)), ?_⟩
  refine mark_notMem_marked (by decide) fun password heq => ?_
  obtain ⟨text, htext, rfl⟩ := Option.map_eq_some_iff.mp heq
  obtain ⟨told, htold, hpassword⟩ := Option.bind_eq_some_iff.mp htext
  split at hpassword
  · cases hpassword
  · cases hpassword
    have hback : (Text.splitFirst ':' cs).2 = some text := by rw [hsplit, htold]
    exact mark_notMem_encode (.inr fun hmem => h (Text.splitFirst_snd_subset hback hmem))

theorem splitUser_fst_subset {cs user : List Char} (h : (splitUser cs).1 = some user) :
    user ⊆ cs := by
  unfold splitUser at h
  dsimp only at h
  split at h
  · cases h
  · cases h
    exact (List.take_sublist _ _).subset

theorem splitUser_snd_subset (cs : List Char) : (splitUser cs).2 ⊆ cs := by
  unfold splitUser
  dsimp only
  split
  · exact List.Subset.refl cs
  · intro c hc
    exact List.mem_reverse.mp ((List.takeWhile_sublist _).subset (List.mem_reverse.mp hc))

theorem splitPort_fst_subset : ∀ (cs : List Char) (inBrackets : Bool) (done : List Char),
    (splitPort inBrackets done cs).1 ⊆ done ++ cs
  | [], _, done => by
    rw [splitPort, List.append_nil]
    exact fun c hc => List.mem_reverse.mp hc
  | c :: rest, inBrackets, done => by
    rw [splitPort]
    split
    · exact fun d hd => List.mem_append_left _ (List.mem_reverse.mp hd)
    · intro d hd
      rcases List.mem_append.mp (splitPort_fst_subset rest _ (c :: done) hd) with hd | hd
      · rcases List.mem_cons.mp hd with rfl | hd
        · exact List.mem_append_right _ List.mem_cons_self
        · exact List.mem_append_left _ hd
      · exact List.mem_append_right _ (List.mem_cons_of_mem _ hd)

theorem unmarked_authority {scheme cs : List Char} {a : Authority} (hcs : '#' ∉ cs)
    (h : authority? scheme cs = some a) : a.Unmarked := by
  have huser : '#' ∉ ((splitUser cs).1.map userOf).getD [] := by
    cases heq : (splitUser cs).1 with
    | none => exact List.not_mem_nil
    | some user => exact mark_notMem_userOf fun hmem => hcs (splitUser_fst_subset heq hmem)
  have hhost : '#' ∉ (splitPort false [] (splitUser cs).2).1 := by
    intro hmem
    exact hcs (splitUser_snd_subset cs (splitPort_fst_subset _ false [] hmem))
  unfold authority? at h
  dsimp only at h
  split at h
  · cases h
  · split at h
    · split at h
      · cases h
      · cases h
        exact ⟨List.not_mem_nil, List.not_mem_nil⟩
    · split at h
      · obtain ⟨host, hread, h⟩ := Option.bind_eq_some_iff.mp h
        obtain ⟨port, -, h⟩ := Option.bind_eq_some_iff.mp h
        cases h
        exact ⟨huser, Host.mark_notMem_known hread⟩
      · obtain ⟨host, hread, h⟩ := Option.bind_eq_some_iff.mp h
        obtain ⟨port, -, h⟩ := Option.bind_eq_some_iff.mp h
        cases h
        exact ⟨huser, Host.mark_notMem_other hhost hread⟩

end Url

end SchemaMock
