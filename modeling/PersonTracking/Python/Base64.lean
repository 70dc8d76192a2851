import Mathlib.Tactic.Common

/-!
# `base64.urlsafe_b64encode`, without the padding

Three bytes become four letters, a rest of one or two bytes becomes two or
three.  `base64url_injective` says that nothing is lost.
-/

namespace PersonTracking.Python

/-- The 64 letters. -/
def base64Alphabet : List Char :=
  "ABCDEFGHIJKLMNOPQRSTUVWXYZabcdefghijklmnopqrstuvwxyz0123456789-_".toList

/-- Letter by letter, as a decision procedure reads it. -/
theorem base64Alphabet_eq : base64Alphabet =
    ['A', 'B', 'C', 'D', 'E', 'F', 'G', 'H', 'I', 'J', 'K', 'L', 'M', 'N', 'O', 'P', 'Q', 'R', 'S',
      'T', 'U', 'V', 'W', 'X', 'Y', 'Z', 'a', 'b', 'c', 'd', 'e', 'f', 'g', 'h', 'i', 'j', 'k', 'l',
      'm', 'n', 'o', 'p', 'q', 'r', 's', 't', 'u', 'v', 'w', 'x', 'y', 'z', '0', '1', '2', '3', '4',
      '5', '6', '7', '8', '9', '-', '_'] :=
  String.toList_ofList

/-- The letter of six bits. -/
def sextet (n : ℕ) : Char := base64Alphabet.getD n 'A'

/-- The letters of a sequence of bytes. -/
def base64url : List ℕ → List Char
  | a :: b :: c :: rest =>
      sextet (a / 4) :: sextet (a % 4 * 16 + b / 16) :: sextet (b % 16 * 4 + c / 64) ::
        sextet (c % 64) :: base64url rest
  | [a, b] => [sextet (a / 4), sextet (a % 4 * 16 + b / 16), sextet (b % 16 * 4)]
  | [a] => [sextet (a / 4), sextet (a % 4 * 16)]
  | [] => []

theorem sextet_inj {m n : ℕ} (small : m < 64) (small' : n < 64) (same : sextet m = sextet n) :
    m = n := by
  have read : ∀ n : Fin 64, base64Alphabet.idxOf (sextet n.val) = n.val := by
    simp only [sextet, base64Alphabet_eq]
    decide +kernel
  have first := read ⟨m, small⟩
  have second := read ⟨n, small'⟩
  simp only [same] at first
  exact first.symm.trans second

/-- The letters are those of the alphabet. -/
theorem sextet_mem (n : ℕ) : sextet n ∈ base64Alphabet := by
  by_cases small : n < base64Alphabet.length
  · rw [sextet, List.getD_eq_getElem?_getD, List.getElem?_eq_getElem small, Option.getD_some]
    exact List.getElem_mem small
  · rw [sextet, List.getD_eq_getElem?_getD, List.getElem?_eq_none (Nat.le_of_not_lt small),
      base64Alphabet_eq]
    exact List.mem_cons_self

theorem mem_base64url {c : Char} {bytes : List ℕ} (member : c ∈ base64url bytes) :
    c ∈ base64Alphabet := by
  fun_induction base64url bytes with
  | case1 a b d rest ih =>
      simp only [List.mem_cons] at member
      rcases member with rfl | rfl | rfl | rfl | later
      · exact sextet_mem _
      · exact sextet_mem _
      · exact sextet_mem _
      · exact sextet_mem _
      · exact ih later
  | case2 a b =>
      simp only [List.mem_cons, List.not_mem_nil, or_false] at member
      rcases member with rfl | rfl | rfl <;> exact sextet_mem _
  | case3 a =>
      simp only [List.mem_cons, List.not_mem_nil, or_false] at member
      rcases member with rfl | rfl <;> exact sextet_mem _
  | case4 => cases member

theorem length_base64url (bytes : List ℕ) :
    (base64url bytes).length = (4 * bytes.length + 2) / 3 := by
  fun_induction base64url bytes with
  | case1 a b c rest ih =>
      simp only [List.length_cons, ih]
      omega
  | case2 a b => simp
  | case3 a => simp
  | case4 => rfl

/-- **Bytes are recovered.** -/
theorem base64url_injective {bytes others : List ℕ} (small : ∀ b ∈ bytes, b < 256)
    (small' : ∀ b ∈ others, b < 256) (same : base64url bytes = base64url others) :
    bytes = others := by
  have lengths : bytes.length = others.length := by
    have letters := congrArg List.length same
    rw [length_base64url, length_base64url] at letters
    omega
  fun_induction base64url bytes generalizing others with
  | case1 a b c rest ih =>
      obtain ⟨a', b', c', rest', rfl⟩ : ∃ a' b' c' rest', others = a' :: b' :: c' :: rest' := by
        match others, lengths with
        | a' :: b' :: c' :: rest', _ => exact ⟨a', b', c', rest', rfl⟩
      simp only [List.mem_cons, forall_eq_or_imp] at small small'
      simp only [base64url, List.cons.injEq] at same
      have first := sextet_inj (by omega) (by omega) same.1
      have second := sextet_inj (by omega) (by omega) same.2.1
      have third := sextet_inj (by omega) (by omega) same.2.2.1
      have fourth := sextet_inj (by omega) (by omega) same.2.2.2.1
      rw [ih small.2.2.2 small'.2.2.2 same.2.2.2.2 (by simpa using lengths)]
      have sameA : a = a' := by omega
      have sameB : b = b' := by omega
      have sameC : c = c' := by omega
      rw [sameA, sameB, sameC]
  | case2 a b =>
      obtain ⟨a', b', rfl⟩ : ∃ a' b', others = [a', b'] := by
        match others, lengths with
        | [a', b'], _ => exact ⟨a', b', rfl⟩
      simp only [List.mem_cons, forall_eq_or_imp] at small small'
      simp only [base64url, List.cons.injEq] at same
      have first := sextet_inj (by omega) (by omega) same.1
      have second := sextet_inj (by omega) (by omega) same.2.1
      have third := sextet_inj (by omega) (by omega) same.2.2.1
      have sameA : a = a' := by omega
      have sameB : b = b' := by omega
      rw [sameA, sameB]
  | case3 a =>
      obtain ⟨a', rfl⟩ : ∃ a', others = [a'] := by
        match others, lengths with
        | [a'], _ => exact ⟨a', rfl⟩
      simp only [List.mem_cons, forall_eq_or_imp] at small small'
      simp only [base64url, List.cons.injEq] at same
      have first := sextet_inj (by omega) (by omega) same.1
      have second := sextet_inj (by omega) (by omega) same.2.1
      have sameA : a = a' := by omega
      rw [sameA]
  | case4 => exact (List.eq_nil_of_length_eq_zero lengths.symm).symm

end PersonTracking.Python
