import Mathlib.Data.List.Induction
import Mathlib.Data.List.TakeWhile
import Mathlib.Data.Nat.Bitwise
import PolicyEditor.Job.Address
import PolicyEditor.Proofs.FileTree.Joining

/-!
# Networks of addresses

An address is written as its four octets in decimal digits, and no other text is read as an address.
A mask is a number whose ones all stand in front of its zeros, so it is told by the number of its
ones.  It takes away the last bits of an address, which rounds the address down to a multiple of the
size of the network.

## Main results

* `Address.ofText?_eq_some_iff` : the texts that are read as addresses.
* `Address.maskLength?_eq_some_iff` : the numbers that are masks.
* `Address.and_mask` : a mask rounds an address down.
* `networkAddress_eq_rounded` : the network of an address under a mask.
-/

namespace PolicyEditor

namespace Address

variable {digits : List Char} {n : Nat}

/-! ### Octets -/

theorem ofDigits_concat (front : List Char) (c : Char) :
    ofDigits (front ++ [c]) = 10 * ofDigits front + (c.toNat - '0'.toNat) := by
  rw [ofDigits, ofDigits, List.foldl_append]
  rfl

theorem exists_digitChar {c : Char} (h : isDigit c = true) :
    c.toNat - '0'.toNat < 10 ∧ Nat.digitChar (c.toNat - '0'.toNat) = c := by
  obtain ⟨hlow, hhigh⟩ := Bool.and_eq_true_iff.1 h
  have hlow : 48 ≤ c.toNat := UInt32.le_iff_toNat_le.1 (Char.le_def.1 (of_decide_eq_true hlow))
  have hhigh : c.toNat ≤ 57 := UInt32.le_iff_toNat_le.1 (Char.le_def.1 (of_decide_eq_true hhigh))
  have hzero : '0'.toNat = 48 := rfl
  refine ⟨by omega, ?_⟩
  obtain ⟨d, hd, hc⟩ : ∃ d < 10, c.toNat = 48 + d := ⟨c.toNat - 48, by omega, by omega⟩
  have hchar : ∀ d < 10, Nat.digitChar d = Char.ofNat (48 + d) := by decide
  rw [hc, hzero, Nat.add_sub_cancel_left, hchar d hd, ← hc, Char.ofNat_toNat]

/-- Decimal digits without a leading zero are those of their number. -/
theorem toDigits_ofDigits (hne : digits ≠ []) (hdigits : ∀ c ∈ digits, isDigit c = true)
    (hhead : digits.head? = some '0' → digits = ['0']) :
    Nat.toDigits 10 (ofDigits digits) = digits := by
  induction digits using List.reverseRecOn with
  | nil => exact absurd rfl hne
  | append_singleton front c ih =>
    obtain ⟨hlt, hc⟩ := exists_digitChar (hdigits c (by simp))
    rw [ofDigits_concat]
    by_cases hfront : front = []
    · subst hfront
      rw [show ofDigits [] = 0 from rfl, Nat.mul_zero, Nat.zero_add,
        Nat.toDigits_of_lt_base hlt, hc, List.nil_append]
    · have hhead' : front.head? ≠ some '0' := by
        intro h
        have hzero := hhead (by rw [List.head?_append_of_ne_nil _ hfront, h])
        simpa [hfront] using congrArg List.length hzero
      have hih := ih hfront (fun d hd => hdigits d (by simp [hd])) fun h => absurd h hhead'
      have hpos : 0 < ofDigits front := by
        refine Nat.pos_of_ne_zero fun hzero => hhead' ?_
        rw [← hih, hzero]
        rfl
      rw [← Nat.toDigits_append_toDigits (by decide) hpos hlt, hih, Nat.toDigits_of_lt_base hlt, hc]

/-- An octet is written with the decimal digits of its number. -/
theorem octet?_eq_some_iff : octet? digits = some n ↔ n < 256 ∧ digits = Nat.toDigits 10 n := by
  constructor
  · intro h
    rw [octet?] at h
    split_ifs at h with hshape hzero hle
    obtain rfl := Option.some.inj h
    simp only [Bool.or_eq_true, Bool.not_eq_true', decide_eq_true_eq, not_or,
      Bool.not_eq_false, List.all_eq_true, List.isEmpty_iff] at hshape
    refine ⟨Nat.lt_succ_of_le hle, (toDigits_ofDigits hshape.1.1 hshape.2 fun hhead => ?_).symm⟩
    rcases digits with - | ⟨c, - | ⟨d, digits⟩⟩
    · cases hhead
    · rw [Option.some.inj hhead]
    · simp [Option.some.inj hhead] at hzero
  · rintro ⟨hn, rfl⟩
    have hall : ∀ n < 256, octet? (Nat.toDigits 10 n) = some n := by decide +kernel
    exact hall n hn

theorem dot_not_mem_toDigits (n : Nat) : '.' ∉ Nat.toDigits 10 n := by
  intro h
  exact absurd (Nat.isDigit_of_mem_toDigits (by decide) (by decide) h) (by decide)

/-! ### Addresses -/

theorem toList_text (n : Nat) :
    (text n).toList = ['.'].intercalate
      ([n / 0x1000000 % 256, n / 0x10000 % 256, n / 0x100 % 256, n % 256].map
        (Nat.toDigits 10)) := by
  simp [text, List.intercalate, Nat.toList_repr]

theorem fields_text (n : Nat) :
    Text.fields '.' (text n).toList =
      [n / 0x1000000 % 256, n / 0x10000 % 256, n / 0x100 % 256, n % 256].map (Nat.toDigits 10) := by
  rw [toList_text]
  refine Text.fields_intercalate (by simp) fun piece hpiece => ?_
  obtain ⟨octet, -, rfl⟩ := List.mem_map.1 hpiece
  exact dot_not_mem_toDigits octet

theorem mapM_octet?_toDigits {ns : List Nat} (h : ∀ n ∈ ns, n < 256) :
    (ns.map (Nat.toDigits 10)).mapM octet? = some ns := by
  induction ns with
  | nil => rfl
  | cons n ns ih =>
    rw [List.forall_mem_cons] at h
    rw [List.map_cons, List.mapM_cons, octet?_eq_some_iff.2 ⟨h.1, rfl⟩, ih h.2]
    rfl

theorem eq_map_toDigits_of_mapM {pieces : List (List Char)} {ns : List Nat}
    (h : pieces.mapM octet? = some ns) :
    pieces = ns.map (Nat.toDigits 10) ∧ ∀ n ∈ ns, n < 256 := by
  induction pieces generalizing ns with
  | nil =>
    cases h
    exact ⟨rfl, by simp⟩
  | cons piece pieces ih =>
    rw [List.mapM_cons] at h
    obtain ⟨n, hn, h⟩ := Option.bind_eq_some_iff.1 h
    obtain ⟨ns', hns, h⟩ := Option.bind_eq_some_iff.1 h
    cases h
    obtain ⟨hlt, rfl⟩ := octet?_eq_some_iff.1 hn
    obtain ⟨rfl, hall⟩ := ih hns
    exact ⟨rfl, List.forall_mem_cons.2 ⟨hlt, hall⟩⟩

/-- An address is what it is written as. -/
theorem ofText?_text (h : n < 2 ^ 32) : ofText? (text n) = some n := by
  rw [ofText?, fields_text, mapM_octet?_toDigits (by simp; omega)]
  dsimp only
  congr 1
  omega

/-- The texts that are read as addresses are those that addresses are written as. -/
theorem ofText?_eq_some_iff {t : String} : ofText? t = some n ↔ n < 2 ^ 32 ∧ t = text n := by
  constructor
  · intro h
    rw [ofText?] at h
    split at h
    · next a b c d hoctets =>
      cases h
      obtain ⟨hfields, hlt⟩ := eq_map_toDigits_of_mapM hoctets
      simp only [List.forall_mem_cons] at hlt
      obtain ⟨ha, hb, hc, hd, -⟩ := hlt
      refine ⟨by omega, String.toList_injective ?_⟩
      rw [← Text.intercalate_fields '.' t.toList, hfields, toList_text]
      refine congrArg (fun ns : List Nat => ['.'].intercalate (ns.map (Nat.toDigits 10))) ?_
      simp only [List.cons.injEq, and_true]
      omega
    · cases h
  · rintro ⟨h, rfl⟩
    exact ofText?_text h

theorem text_injOn {m : Nat} (hm : m < 2 ^ 32) (hn : n < 2 ^ 32) (h : text m = text n) : m = n :=
  Option.some.inj ((ofText?_text hm).symm.trans (h ▸ ofText?_text hn))

/-! ### Masks -/

/-- The front of a range up to the first number without a property. -/
theorem length_takeWhile_range {p : Nat → Bool} {m k : Nat} (hk : k ≤ m)
    (hfront : ∀ i < k, p i = true) (hnext : k < m → p k = false) :
    ((List.range m).takeWhile p).length = k := by
  obtain ⟨l, rfl⟩ := Nat.exists_eq_add_of_le hk
  rw [List.range_add, List.takeWhile_append_of_pos (by simpa using hfront)]
  rcases l with - | l
  · simp
  · rw [List.range_succ_eq_map]
    simp [hnext (by omega)]

theorem of_lt_length_takeWhile_range {p : Nat → Bool} {m i : Nat}
    (h : i < ((List.range m).takeWhile p).length) : p i = true := by
  have hget : ((List.range m).takeWhile p)[i] = i := by
    rw [(List.takeWhile_prefix p).getElem h, List.getElem_range]
  exact hget ▸ List.mem_takeWhile_imp (List.getElem_mem h)

/-- The mask with ones in its first `k` bits. -/
theorem testBit_mask {k : Nat} (hk : k ≤ 32) (i : Nat) :
    (2 ^ 32 - 2 ^ (32 - k)).testBit i = decide (32 - k ≤ i ∧ i < 32) := by
  have hmask : 2 ^ 32 - 2 ^ (32 - k) = (2 ^ k - 1) * 2 ^ (32 - k) := by
    rw [Nat.sub_mul, ← Nat.pow_add, Nat.one_mul, Nat.add_sub_cancel' hk]
  rw [hmask, Nat.testBit_mul_two_pow, Nat.testBit_two_pow_sub_one, ← Bool.decide_and,
    decide_eq_decide]
  omega

theorem testBit_eq_false_of_le {n i : Nat} (hn : n < 2 ^ 32) (hi : 32 ≤ i) :
    n.testBit i = false :=
  Nat.testBit_lt_two_pow (hn.trans_le (Nat.pow_le_pow_right (by decide) hi))

theorem testBit_of_leadingOnes {mask i : Nat} (h : i < leadingOnes mask) :
    mask.testBit (31 - i) = true :=
  of_lt_length_takeWhile_range (p := fun i => mask.testBit (31 - i)) h

theorem testBit_of_trailingZeros {mask i : Nat} (h : i < trailingZeros mask) :
    mask.testBit i = false :=
  by simpa using of_lt_length_takeWhile_range (p := fun i => !mask.testBit i) h

theorem leadingOnes_mask {k : Nat} (hk : k ≤ 32) : leadingOnes (2 ^ 32 - 2 ^ (32 - k)) = k := by
  refine length_takeWhile_range hk (fun i hi => ?_) fun hlt => ?_
  · rw [testBit_mask hk]
    exact decide_eq_true (by omega)
  · rw [testBit_mask hk]
    exact decide_eq_false (by omega)

theorem trailingZeros_mask {k : Nat} (hk : k ≤ 32) :
    trailingZeros (2 ^ 32 - 2 ^ (32 - k)) = 32 - k := by
  refine length_takeWhile_range (Nat.sub_le 32 k) (fun i hi => ?_) fun hlt => ?_
  · rw [testBit_mask hk, Bool.not_eq_true']
    exact decide_eq_false (by omega)
  · rw [testBit_mask hk, Bool.not_eq_false']
    exact decide_eq_true (by omega)

/-- A mask has ones in its first bits and zeros in all others. -/
theorem maskLength?_eq_some_iff {mask k : Nat} (hmask : mask < 2 ^ 32) :
    maskLength? mask = some k ↔ k ≤ 32 ∧ mask = 2 ^ 32 - 2 ^ (32 - k) := by
  rw [maskLength?, Option.ite_none_right_eq_some, Option.some.injEq]
  constructor
  · rintro ⟨hsum, rfl⟩
    have hle : leadingOnes mask ≤ 32 := by omega
    refine ⟨hle, Nat.eq_of_testBit_eq fun i => ?_⟩
    rw [testBit_mask hle]
    rcases Nat.lt_or_ge i 32 with hi | hi
    · by_cases hone : 32 - leadingOnes mask ≤ i
      · rw [decide_eq_true ⟨hone, hi⟩, show i = 31 - (31 - i) by omega]
        exact testBit_of_leadingOnes (by omega)
      · rw [decide_eq_false (by omega)]
        exact testBit_of_trailingZeros (by omega)
    · rw [testBit_eq_false_of_le hmask hi, decide_eq_false (by omega)]
  · rintro ⟨hk, rfl⟩
    rw [leadingOnes_mask hk, trailingZeros_mask hk]
    exact ⟨Nat.add_sub_cancel' hk, rfl⟩

/-! ### Networks -/

/-- The bits of an address under a mask are the address rounded down. -/
theorem and_mask {a k : Nat} (ha : a < 2 ^ 32) (hk : k ≤ 32) :
    a &&& (2 ^ 32 - 2 ^ (32 - k)) = a / 2 ^ (32 - k) * 2 ^ (32 - k) := by
  refine Nat.eq_of_testBit_eq fun i => ?_
  rw [Nat.testBit_and, testBit_mask hk, Nat.testBit_mul_two_pow, Nat.testBit_div_two_pow]
  by_cases hone : 32 - k ≤ i
  · rw [Nat.sub_add_cancel hone]
    rcases Nat.lt_or_ge i 32 with hi | hi
    · simp [hone, hi]
    · simp [testBit_eq_false_of_le ha hi]
  · simp [hone]

theorem rounded_lt {a : Nat} (ha : a < 2 ^ 32) (k : Nat) :
    a / 2 ^ (32 - k) * 2 ^ (32 - k) < 2 ^ 32 :=
  (Nat.div_mul_le_self a _).trans_lt ha

/-- Addresses are rounded down to the same one if they agree in the bits in front. -/
theorem div_mul_eq_iff {a b k : Nat} (ha : a < 2 ^ 32) (hb : b < 2 ^ 32) (hk : k ≤ 32) :
    a / 2 ^ (32 - k) * 2 ^ (32 - k) = b / 2 ^ (32 - k) * 2 ^ (32 - k) ↔
      ∀ i < k, a.testBit (31 - i) = b.testBit (31 - i) := by
  rw [Nat.mul_left_inj (Nat.two_pow_pos _).ne']
  constructor
  · intro h i hi
    have hbit := congrArg (Nat.testBit · (k - 1 - i)) h
    simp only [Nat.testBit_div_two_pow] at hbit
    rwa [show k - 1 - i + (32 - k) = 31 - i by omega] at hbit
  · intro h
    refine Nat.eq_of_testBit_eq fun i => ?_
    rw [Nat.testBit_div_two_pow, Nat.testBit_div_two_pow]
    rcases Nat.lt_or_ge i k with hi | hi
    · have hbit := h (k - 1 - i) (by omega)
      rwa [show 31 - (k - 1 - i) = i + (32 - k) by omega] at hbit
    · rw [testBit_eq_false_of_le ha (by omega), testBit_eq_false_of_le hb (by omega)]

end Address

open Address

variable {a b : Nat}

/-- What stands for the network of an address: the address rounded down, and the number of bits that
tell the network. -/
theorem networkAddress_text_eq_ok_iff (ha : a < 2 ^ 32) {mask : Option String} {network : String} :
    networkAddress (text a) mask = .ok network ↔ ∃ k ≤ 32,
      mask = some (text (2 ^ 32 - 2 ^ (32 - k))) ∧
        network = text (a / 2 ^ (32 - k) * 2 ^ (32 - k)) ++ "/" ++ toString k := by
  rw [networkAddress, ofText?_text ha]
  dsimp only
  constructor
  · intro h
    rcases hmask : ofText? (mask.getD "") with - | m
    · rw [hmask] at h
      cases h
    · rw [hmask] at h
      dsimp only at h
      rcases hlength : maskLength? m with - | k
      · rw [hlength] at h
        cases h
      · rw [hlength] at h
        cases h
        obtain ⟨hm, htext⟩ := ofText?_eq_some_iff.1 hmask
        obtain ⟨hk, rfl⟩ := (maskLength?_eq_some_iff hm).1 hlength
        refine ⟨k, hk, ?_, by rw [and_mask ha hk]⟩
        rcases mask with - | mask
        · cases hmask
        · exact congrArg some htext
  · rintro ⟨k, hk, rfl, rfl⟩
    have hm : 2 ^ 32 - 2 ^ (32 - k) < 2 ^ 32 := Nat.sub_lt (by decide) (Nat.two_pow_pos _)
    rw [Option.getD_some, ofText?_text hm]
    dsimp only
    rw [(maskLength?_eq_some_iff hm).2 ⟨hk, rfl⟩, and_mask ha hk]

/-- The network of an address under a mask is given if the mask has ones in its first `k` bits and
zeros in all others, for some `k` up to 32.  It is the address rounded down to a multiple of the
size of the network, and `k`.  So two addresses have the same network under a mask if they agree in
their first `k` bits. -/
theorem networkAddress_eq_rounded (ha : a < 2 ^ 32) (hb : b < 2 ^ 32) (mask : Option String) :
    (∀ network, networkAddress (text a) mask = .ok network ↔ ∃ k ≤ 32,
      mask = some (text (2 ^ 32 - 2 ^ (32 - k))) ∧
        network = text (a / 2 ^ (32 - k) * 2 ^ (32 - k)) ++ "/" ++ toString k) ∧
      ∀ k ≤ 32, mask = some (text (2 ^ 32 - 2 ^ (32 - k))) →
        (networkAddress (text a) mask = networkAddress (text b) mask ↔
          ∀ i < k, a.testBit (31 - i) = b.testBit (31 - i)) := by
  refine ⟨fun network => networkAddress_text_eq_ok_iff ha, fun k hk hmask => ?_⟩
  rw [(networkAddress_text_eq_ok_iff ha).2 ⟨k, hk, hmask, rfl⟩,
    (networkAddress_text_eq_ok_iff hb).2 ⟨k, hk, hmask, rfl⟩, Except.ok.injEq,
    String.append_left_inj, String.append_left_inj, ← div_mul_eq_iff ha hb hk]
  refine ⟨text_injOn (rounded_lt ha k) (rounded_lt hb k), congrArg text⟩

/-- The mask ends within an octet, and both addresses lie in its network. -/
theorem networkAddress_eq_rounded_twenty :
    text 0xC0A807C8 = "192.168.7.200" ∧ text 0xC0A80F01 = "192.168.15.1" ∧
      networkAddress "192.168.7.200" (some "255.255.240.0") = .ok "192.168.0.0/20" ∧
      networkAddress "192.168.7.200" (some "255.255.240.0") =
        networkAddress "192.168.15.1" (some "255.255.240.0") := by
  have hfirst : text 0xC0A807C8 = "192.168.7.200" := by decide +kernel
  have hsecond : text 0xC0A80F01 = "192.168.15.1" := by decide +kernel
  have hmask : text (2 ^ 32 - 2 ^ (32 - 20)) = "255.255.240.0" := by decide +kernel
  have hnetwork : text (0xC0A807C8 / 2 ^ (32 - 20) * 2 ^ (32 - 20)) ++ "/" ++ toString 20 =
      "192.168.0.0/20" := by decide +kernel
  obtain ⟨hok, hsame⟩ := networkAddress_eq_rounded (a := 0xC0A807C8) (b := 0xC0A80F01) (by decide)
    (by decide) (some "255.255.240.0")
  rw [hfirst, hsecond] at hsame
  rw [hfirst] at hok
  exact ⟨hfirst, hsecond, (hok _).2 ⟨20, by decide, congrArg some hmask.symm, hnetwork.symm⟩,
    (hsame 20 (by decide) (congrArg some hmask.symm)).2 (by decide +kernel)⟩

end PolicyEditor
