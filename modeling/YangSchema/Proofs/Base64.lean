import YangSchema.Base64

/-!
# Reading Base64 back

Bytes are written as values of six bits and padding. The letters stand for these values, the values
make up the bytes again, and the padding is the one that completes the last four letters, whatever
the number of bytes leaves over three.
-/
namespace YangSchema.Base64

/-- The values that bytes are cut into; the last is filled up with zeros. -/
def sextets : List UInt8 → List Nat
  | [] => []
  | [a] => [a.toNat / 4, a.toNat % 4 * 16]
  | [a, b] => [a.toNat / 4, a.toNat % 4 * 16 + b.toNat / 16, b.toNat % 16 * 4]
  | a :: b :: c :: r =>
    a.toNat / 4 :: (a.toNat % 4 * 16 + b.toNat / 16) ::
      (b.toNat % 16 * 4 + c.toNat / 64) :: c.toNat % 64 :: sextets r

def fill : List UInt8 → Nat
  | [] => 0
  | [_] => 2
  | [_, _] => 1
  | _ :: _ :: _ :: r => fill r

theorem encode_eq (b : List UInt8) :
    encode b = (sextets b).map letter ++ List.replicate (fill b) '=' := by
  fun_induction encode b with
  | case1 => rfl
  | case2 a => rfl
  | case3 a b => rfl
  | case4 a b c r ih => simp [sextets, fill, ih]

theorem sextets_lt (b : List UInt8) : ∀ n ∈ sextets b, n < 64 := by
  fun_induction sextets b with
  | case1 => simp
  | case2 a =>
    have := a.toNat_lt
    simp
    omega
  | case3 a b =>
    have := a.toNat_lt
    have := b.toNat_lt
    simp
    omega
  | case4 a b c r ih =>
    have := a.toNat_lt
    have := b.toNat_lt
    have := c.toNat_lt
    simp only [List.forall_mem_cons]
    exact ⟨by omega, by omega, by omega, by omega, ih⟩

theorem letterValue?_letter_of_mem : ∀ n ∈ List.range 64, letterValue? (letter n) = some n := by
  decide

theorem letterValue?_letter {n : Nat} (h : n < 64) : letterValue? (letter n) = some n :=
  letterValue?_letter_of_mem n (List.mem_range.2 h)

theorem filterMap_letterValue? {values : List Nat} (h : ∀ n ∈ values, n < 64) :
    (values.map letter).filterMap letterValue? = values := by
  induction values with
  | nil => rfl
  | cons n values ih =>
    obtain ⟨hn, hrest⟩ := List.forall_mem_cons.1 h
    rw [List.map_cons, List.filterMap_cons, letterValue?_letter hn, ih hrest]

/-- The letters end where the padding starts. -/
theorem takeWhile_letters {values : List Nat} (h : ∀ n ∈ values, n < 64) (k : Nat) :
    (values.map letter ++ List.replicate k '=').takeWhile (letterValue? · |>.isSome) =
      values.map letter := by
  have hletters : ∀ c ∈ values.map letter, (letterValue? c).isSome = true := by
    intro c hc
    obtain ⟨n, hn, rfl⟩ := List.mem_map.1 hc
    rw [letterValue?_letter (h n hn), Option.isSome_some]
  have hpadding : (List.replicate k '=').takeWhile (letterValue? · |>.isSome) = [] := by
    cases k with
    | zero => rfl
    | succ k => rfl
  rw [List.takeWhile_append_of_pos hletters, hpadding, List.append_nil]

theorem ofNat_eq_of_toNat {n : Nat} {a : UInt8} (h : n = a.toNat) : UInt8.ofNat n = a := by
  rw [h, UInt8.ofNat_toNat]

theorem bytes_sextets (b : List UInt8) : bytes (sextets b) = b := by
  fun_induction sextets b with
  | case1 => rfl
  | case2 a =>
    simp only [bytes]
    rw [ofNat_eq_of_toNat (a := a) (by omega)]
  | case3 a b =>
    have := b.toNat_lt
    simp only [bytes]
    rw [ofNat_eq_of_toNat (a := a) (by omega), ofNat_eq_of_toNat (a := b) (by omega)]
  | case4 a b c r ih =>
    have := b.toNat_lt
    have := c.toNat_lt
    simp only [bytes]
    rw [ofNat_eq_of_toNat (a := a) (by omega), ofNat_eq_of_toNat (a := b) (by omega),
      ofNat_eq_of_toNat (a := c) (by omega), ih]

/-- Four more letters need the same padding. -/
theorem isPadding_add_four {letters padding : Nat} (h : isPadding letters padding = true) :
    isPadding (letters + 4) padding = true := by
  unfold isPadding at h ⊢
  rw [Nat.add_mod_right]
  split at h <;> simp_all

theorem isPadding_fill (b : List UInt8) : isPadding (sextets b).length (fill b) = true := by
  fun_induction sextets b with
  | case1 => rfl
  | case2 a => rfl
  | case3 a b => rfl
  | case4 a b c r ih => exact isPadding_add_four ih

/-- What is written is read back, for any number of bytes. -/
theorem decode?_encode (b : List UInt8) : decode? (encode b) = some b := by
  have hlt := sextets_lt b
  have hdrop : ((sextets b).map letter ++ List.replicate (fill b) '=').drop
      ((sextets b).map letter).length = List.replicate (fill b) '=' := List.drop_left ..
  have hall : (List.replicate (fill b) '=').all (· = '=') = true := by simp
  have hpadding : isPadding ((sextets b).map letter).length
      (List.replicate (fill b) '=').length = true := by
    rw [List.length_map, List.length_replicate]
    exact isPadding_fill b
  simp only [decode?, encode_eq, takeWhile_letters hlt, hdrop, hall, hpadding, Bool.and_self,
    if_true, filterMap_letterValue? hlt, bytes_sextets]

end YangSchema.Base64
