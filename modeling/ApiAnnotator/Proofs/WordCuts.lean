import ApiAnnotator.Proofs.Alphabet
import Mathlib.Data.List.TakeDrop

/-!
# Where words are cut

The words of a text take up its letters and digits in order, so a character of the text belongs to
the word that its place among the letters and digits falls into. Words are put together from the
right: a character in front of a text starts one more word unless it joins the first one, and that
is decided by the next two characters alone. Whatever stands further to the left moves the numbers
of all words on by the same amount. So of two characters of a text it can be told by what is between
them whether they share a word.

## Main definitions

* `wordAt` — the number of the word that a character of a text belongs to.
* `CutsAtCase` — words that have all letters and digits of a text and are cut where it changes case.

## Main statements

* `flatten_wordsBy` — wherever a text is cut, its words have all its letters and digits.
* `wordAt_add` — what stands before a position moves all numbers behind it on by the same amount.
* `wordAt_succ` — neighbours belong to different words exactly if there is a cut between them.
* `wordAt_lt_of_separated` — what is separated belongs to different words.
* `splitWords_loses_nothing` — **the words of a name lose nothing and are cut where it changes
  case**.
-/

namespace ApiAnnotator.Identifier

open Text

variable {cut : Char → Char → Option Char → Bool} {c : Char}

/-! ## Nothing is lost -/

theorem flatten_extendFirst (c : Char) (words : List (List Char)) :
    (extendFirst c words).flatten = c :: words.flatten := by
  cases words <;> rfl

/-- Wherever a text is cut into words, they have all its letters and digits. -/
theorem flatten_wordsBy (cut : Char → Char → Option Char → Bool) (text : List Char) :
    (wordsBy cut text).flatten = text.filter Char.isAlphanum := by
  induction text with
  | nil => simp [wordsBy]
  | cons c rest ih =>
      rw [wordsBy.eq_def]
      by_cases hc : c.isAlphanum = true
      · rw [List.filter_cons_of_pos hc, ← ih]
        cases rest with
        | nil => simp [hc, wordsBy]
        | cons d after =>
            simp only [hc, if_true]
            split
            · exact flatten_extendFirst c _
            · rfl
      · rw [List.filter_cons_of_neg hc, ← ih]
        simp [hc]

theorem wordsBy_cons_ne_nil (hc : c.isAlphanum = true) (rest : List Char) :
    wordsBy cut (c :: rest) ≠ [] := by
  intro hnil
  have hletters := flatten_wordsBy cut (c :: rest)
  rw [hnil, List.filter_cons_of_pos hc] at hletters
  cases hletters

/-! ## The word of a character -/

/-- The number of the word that the letter at a place among all letters of the words belongs to. -/
def wordOf : List (List Char) → Nat → Nat
  | [], _ => 0
  | word :: words, place =>
    if place < word.length then 0 else wordOf words (place - word.length) + 1

/-- The number of the word that a character of a text belongs to, if it is a letter or a digit. Its
place in the words is the number of letters and digits before it. -/
def wordAt (words : List (List Char)) (text : List Char) (i : Nat) : Nat :=
  wordOf words ((text.take i).countP Char.isAlphanum)

/-- A letter stands in the word with its number. -/
theorem exists_word_of_getElem? {words : List (List Char)} {place : Nat}
    (h : words.flatten[place]? = some c) :
    ∃ word, words[wordOf words place]? = some word ∧ c ∈ word := by
  induction words generalizing place with
  | nil => simp at h
  | cons word words ih =>
      rw [List.flatten_cons, List.getElem?_append] at h
      rw [wordOf]
      split at h
      next hin =>
        rw [if_pos hin]
        exact ⟨word, rfl, List.mem_of_getElem? h⟩
      next hout =>
        rw [if_neg hout]
        exact ih h

/-- The place of a letter or digit is where it stands among the letters and digits of the text. -/
theorem getElem?_filter_countP {text : List Char} {i : Nat} (h : text[i]? = some c)
    (hc : c.isAlphanum = true) :
    (text.filter Char.isAlphanum)[(text.take i).countP Char.isAlphanum]? = some c := by
  induction text generalizing i with
  | nil => simp at h
  | cons d rest ih =>
      cases i with
      | zero =>
          obtain rfl : d = c := by simpa using h
          simp [hc]
      | succ i =>
          have hrest := ih (i := i) (by simpa using h)
          by_cases hd : d.isAlphanum = true
          · simpa [hd] using hrest
          · simpa [hd] using hrest

theorem wordOf_extendFirst_succ {words : List (List Char)} (h : words ≠ []) (c : Char)
    (place : Nat) : wordOf (extendFirst c words) (place + 1) = wordOf words place := by
  cases words with
  | nil => exact absurd rfl h
  | cons word words => simp [extendFirst, wordOf]

theorem wordOf_singleton_cons_succ (words : List (List Char)) (c : Char) (place : Nat) :
    wordOf ([c] :: words) (place + 1) = wordOf words place + 1 := by
  simp [wordOf]

/-- Whether a word ends at a character that the rest of a text follows. -/
def endsWord (cut : Char → Char → Option Char → Bool) (c : Char) : List Char → Bool
  | [] => c.isAlphanum
  | d :: after => c.isAlphanum && !(d.isAlphanum && !cut c d after.head?)

/-- One step to the right: the numbers of the rest of the text move on by one if a word ends before
it. -/
theorem wordAt_cons_succ (cut : Char → Char → Option Char → Bool) (c : Char) (rest : List Char)
    (i : Nat) : wordAt (wordsBy cut (c :: rest)) (c :: rest) (i + 1) =
      wordAt (wordsBy cut rest) rest i + (endsWord cut c rest).toNat := by
  rw [wordAt, List.take_succ_cons, List.countP_cons, wordsBy.eq_def, wordAt]
  by_cases hc : c.isAlphanum = true
  · cases rest with
    | nil => simp [hc, endsWord, wordsBy, wordOf]
    | cons d after =>
        by_cases hjoin : (d.isAlphanum && !cut c d after.head?) = true
        · -- the first word of the rest is there to be joined, as `d` belongs to it
          have hd : d.isAlphanum = true := (Bool.and_eq_true_iff.1 hjoin).1
          simp only [hc, if_true, hjoin, endsWord]
          rw [wordOf_extendFirst_succ (wordsBy_cons_ne_nil hd after)]
          rfl
        · simp only [hc, if_true, hjoin, endsWord]
          exact wordOf_singleton_cons_succ _ _ _
  · cases rest with
    | nil => simp [hc, endsWord]
    | cons d after => simp [hc, endsWord]

/-- The first character belongs to the first word. -/
theorem wordAt_zero (cut : Char → Char → Option Char → Bool) (text : List Char) :
    wordAt (wordsBy cut text) text 0 = 0 := by
  rw [wordAt, List.take_zero, List.countP_nil]
  cases hwords : wordsBy cut text with
  | nil => rfl
  | cons word words =>
      have hword : word ≠ [] := ne_nil_of_mem_wordsBy (hwords ▸ List.mem_cons_self)
      rw [wordOf, if_pos (List.length_pos_iff.2 hword)]

/-- What stands before a position moves the numbers of all words behind it on by the same amount: by
the number of the word at that position. -/
theorem wordAt_add (cut : Char → Char → Option Char → Bool) (text : List Char) (i k : Nat) :
    wordAt (wordsBy cut text) text (i + k) = wordAt (wordsBy cut text) text i +
      wordAt (wordsBy cut (text.drop i)) (text.drop i) k := by
  induction i generalizing text with
  | zero => rw [wordAt_zero, List.drop_zero, Nat.zero_add, Nat.zero_add]
  | succ i ih =>
      cases text with
      | nil => simp [wordAt, wordsBy, wordOf]
      | cons c rest =>
          rw [List.drop_succ_cons, Nat.add_right_comm, wordAt_cons_succ, wordAt_cons_succ, ih,
            Nat.add_right_comm]

/-! ## Who shares a word -/

variable {text : List Char} {i j p : Nat} {d x : Char}

theorem drop_eq_cons (h : text[i]? = some c) : text.drop i = c :: text.drop (i + 1) := by
  rw [List.drop_eq_getElem?_toList_append, h, Option.toList_some, List.singleton_append]

/-- The word of a letter or digit is that of its left neighbour, or the next one if there is a cut
between them. -/
theorem wordAt_succ (cut : Char → Char → Option Char → Bool) (hi : text[i]? = some c)
    (hnext : text[i + 1]? = some d) (hc : c.isAlphanum = true) (hd : d.isAlphanum = true) :
    wordAt (wordsBy cut text) text (i + 1) =
      wordAt (wordsBy cut text) text i + (cut c d text[i + 2]?).toNat := by
  have hends : endsWord cut c (d :: text.drop (i + 2)) = cut c d text[i + 2]? := by
    simp [endsWord, hc, hd]
  rw [wordAt_add, drop_eq_cons hi, drop_eq_cons hnext, wordAt_cons_succ, wordAt_zero, hends,
    Nat.zero_add]

/-- Behind a character that is no letter or digit, nothing belongs to the first word. -/
theorem wordAt_pos_of_separated (cut : Char → Char → Option Char → Bool) {rest : List Char}
    {k : Nat} (hc : c.isAlphanum = true) (hp : rest[p]? = some x) (hx : x.isAlphanum = false)
    (hlt : p < k) :
    0 < wordAt (wordsBy cut (c :: rest)) (c :: rest) (k + 1) := by
  induction rest generalizing c p k with
  | nil => simp at hp
  | cons d after ih =>
      rw [wordAt_cons_succ]
      cases p with
      | zero =>
          obtain rfl : d = x := by simpa using hp
          simp [endsWord, hc, hx]
      | succ p =>
          obtain ⟨k, rfl⟩ := Nat.exists_eq_succ_of_ne_zero (Nat.ne_zero_of_lt hlt)
          by_cases hd : d.isAlphanum = true
          · -- the separator is further to the right, behind a letter or digit
            have hpos := ih hd (by simpa using hp) (Nat.lt_of_succ_lt_succ hlt)
            exact Nat.lt_of_lt_of_le hpos (Nat.le_add_right _ _)
          · simp [endsWord, hc, hd]

/-- What follows a separator belongs to a later word than a letter or digit before it. -/
theorem wordAt_lt_of_separated (cut : Char → Char → Option Char → Bool) (hip : i < p) (hpj : p < j)
    (hi : text[i]? = some c) (hc : c.isAlphanum = true) (hp : text[p]? = some x)
    (hx : x.isAlphanum = false) :
    wordAt (wordsBy cut text) text i < wordAt (wordsBy cut text) text j := by
  obtain ⟨k, rfl⟩ := Nat.exists_eq_add_of_lt (Nat.lt_trans hip hpj)
  obtain ⟨q, rfl⟩ := Nat.exists_eq_add_of_lt hip
  have hseparator : (text.drop (i + 1))[q]? = some x := by
    rw [List.getElem?_drop, Nat.add_right_comm, hp]
  rw [Nat.add_assoc, wordAt_add, drop_eq_cons hi]
  exact Nat.lt_add_of_pos_right (wordAt_pos_of_separated cut hc hseparator hx (by omega))

/-! ## Words of names -/

/-- Words that lose nothing of a text and are cut where it changes case. They are not empty, consist
of letters and digits, and are all letters and digits of the text in order, so each of these belongs
to a word. Two of them that are neighbours in the text belong to different words exactly if the
second one is a capital and the first one or the one that follows is a small letter; and two of them
with anything else in between always belong to different words. -/
structure CutsAtCase (text : List Char) (words : List (List Char)) : Prop where
  ne_nil : ∀ word ∈ words, word ≠ []
  isAlphanum : ∀ word ∈ words, ∀ c ∈ word, c.isAlphanum = true
  flatten_eq : words.flatten = text.filter Char.isAlphanum
  mem_word : ∀ i c, text[i]? = some c → c.isAlphanum = true →
    ∃ word, words[wordAt words text i]? = some word ∧ c ∈ word
  wordAt_ne_iff : ∀ i c d, text[i]? = some c → text[i + 1]? = some d →
    c.isAlphanum = true → d.isAlphanum = true →
      (wordAt words text i ≠ wordAt words text (i + 1) ↔
        d.isUpper = true ∧
          (c.isLower = true ∨ ∃ e, text[i + 2]? = some e ∧ e.isLower = true))
  wordAt_ne : ∀ i p j c x d, i < p → p < j → text[i]? = some c → text[p]? = some x →
    text[j]? = some d → c.isAlphanum = true → x.isAlphanum = false → d.isAlphanum = true →
      wordAt words text i ≠ wordAt words text j

/-- A new word starts at a capital behind or before a small letter. -/
theorem startsWord_iff {after : Option Char} : startsWord c d after = true ↔
    d.isUpper = true ∧ (c.isLower = true ∨ ∃ e, after = some e ∧ e.isLower = true) := by
  rw [startsWord, Bool.and_eq_true, Bool.or_eq_true, Option.any_eq_true]

/-- **The words of a name lose nothing and are cut exactly where it changes case.** -/
theorem splitWords_loses_nothing (text : List Char) : CutsAtCase text (splitWords text) where
  ne_nil word hword := ne_nil_of_mem_wordsBy hword
  isAlphanum word hword c hc := isAlphanum_of_mem_wordsBy hword hc
  flatten_eq := flatten_wordsBy startsWord text
  mem_word i c hi hc := by
    refine exists_word_of_getElem? ?_
    rw [splitWords, flatten_wordsBy]
    exact getElem?_filter_countP hi hc
  wordAt_ne_iff i c d hi hnext hc hd := by
    rw [splitWords, wordAt_succ startsWord hi hnext hc hd, ← startsWord_iff]
    cases startsWord c d text[i + 2]? <;> simp
  wordAt_ne i p j c x d hip hpj hi hp _ hc hx _ :=
    Nat.ne_of_lt (wordAt_lt_of_separated startsWord hip hpj hi hc hp hx)

/-- The last capital of a run belongs to the small letters behind it, and digits are neither. -/
example : (splitWords "getHTTPServer_v2BETA".toList).map String.ofList =
    ["get", "HTTP", "Server", "v2BETA"] := by decide

end ApiAnnotator.Identifier
