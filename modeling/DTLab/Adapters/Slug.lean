import DTLab.Receiver.Schema
import DTLab.Tickets.Text
import Mathlib.Data.List.Basic

/-!
# Slugs of upstream identifiers

`_slug` of the Cyber Vision adapter makes an identifier of the snapshot of one of the appliance. An
identifier that its lower-cased form spells is kept so; any other is shortened and followed by a
piece of its digest. Two identifiers can get one slug, and the lemmas here say when.
-/

namespace DTLab

open Library (Json Text)

/-- What the adapter takes from Python and from its readers of numbers and instants. -/
structure AdapterPlatform extends StorePlatform where
  /-- A digest is made of 64 hexadecimal digits. -/
  digest : ∀ text, isDigestBody (sha256Text text).toList = true
  /-- `_utc_text`. -/
  utcText : Json → Option String
  /-- Does `_number` read a value as a number from 0 to 100? -/
  percent : Json → Bool
  /-- Is the value of a literal zero? -/
  isZero : Library.FloatLiteral → Bool

/-- A character that a slug keeps. -/
def slugChar (c : Char) : Bool := c.isAlphanum || ['_', '.', '-'].contains c

/-- `re.sub` of the runs of other characters by a dash, within a run or not. -/
def squash : Bool → Text → Text
  | _, [] => []
  | within, c :: rest =>
    if slugChar c then c :: squash false rest
    else if within then squash true rest
    else '-' :: squash true rest

/-- `str.strip("-")`. -/
def trimDashes (text : Text) : Text :=
  ((text.dropWhile (· = '-')).reverse.dropWhile (· = '-')).reverse

/-- The simplified form of an identifier. -/
def simpleText (raw : String) : String :=
  String.ofList ((trimDashes (squash false raw.toList)).map Char.toLower)

variable (platform : AdapterPlatform)

/-- Does its simplified form spell an identifier? -/
def Plain (raw : String) : Prop :=
  simpleText raw ≠ "" ∧ simpleText raw = platform.lower raw ∧ (simpleText raw).length ≤ 80

instance (raw : String) : Decidable (Plain platform raw) := inferInstanceAs (Decidable (_ ∧ _))

/-- The start of the slug of an identifier that is not spelled. -/
def slugHead (raw : String) : String :=
  if simpleText raw = "" then "record" else String.ofList ((simpleText raw).toList.take 48)

/-- The digits of the digest that end it. -/
def slugTag (raw : String) : String :=
  String.ofList ((platform.sha256Text raw.toList).toList.take 10)

/-- `_slug` of a stripped text. -/
def slugText (raw : String) : String :=
  if Plain platform raw then simpleText raw else slugHead raw ++ "-" ++ slugTag platform raw

/-- `_slug`. -/
def slug (value : String) : String := slugText platform (strip value)

/-- Two stripped identifiers that get one slug: alike up to case, shortened alike with one digest,
or one of them spelling the shortened form of the other. -/
def Confused (left right : String) : Prop :=
  if Plain platform left then
    if Plain platform right then platform.lower left = platform.lower right
    else platform.lower left = slugHead right ++ "-" ++ slugTag platform right
  else if Plain platform right then
    platform.lower right = slugHead left ++ "-" ++ slugTag platform left
  else slugHead left = slugHead right ∧ slugTag platform left = slugTag platform right

/-- Two identifiers that the adapter tells apart. -/
def Apart (left right : String) : Prop := ¬ Confused platform (strip left) (strip right)

variable {platform}

/-- The end of a slug has ten characters. -/
theorem slugTag_length (raw : String) : (slugTag platform raw).toList.length = 10 := by
  have digits := platform.digest raw.toList
  rw [isDigestBody, Bool.and_eq_true, decide_eq_true_eq] at digits
  rw [slugTag, String.toList_ofList, List.length_take, digits.1]
  rfl

/-- Shortened forms are equal when their parts are. -/
theorem shortened_inj {left right : String} :
    slugHead left ++ "-" ++ slugTag platform left =
      slugHead right ++ "-" ++ slugTag platform right ↔
      slugHead left = slugHead right ∧ slugTag platform left = slugTag platform right := by
  constructor
  · intro same
    have texts := congrArg String.toList same
    simp only [String.toList_append] at texts
    have sizes : (slugTag platform left).toList.length = (slugTag platform right).toList.length :=
      (slugTag_length left).trans (slugTag_length right).symm
    have parts := List.append_inj' texts sizes
    have heads := List.append_inj' parts.1 rfl
    exact ⟨String.toList_injective heads.1, String.toList_injective parts.2⟩
  · intro parts
    rw [parts.1, parts.2]

/-- A stripped identifier that is spelled has its lower-cased form as its slug. -/
theorem slugText_plain {raw : String} (plain : Plain platform raw) :
    slugText platform raw = platform.lower raw := by
  rw [slugText, if_pos plain]
  exact plain.2.1

/-- Two stripped identifiers get one slug exactly when they are confused. -/
theorem slugText_eq_iff {left right : String} :
    slugText platform left = slugText platform right ↔ Confused platform left right := by
  unfold Confused
  by_cases first : Plain platform left
  · rw [if_pos first, slugText_plain first]
    by_cases second : Plain platform right
    · rw [if_pos second, slugText_plain second]
    · rw [if_neg second, slugText, if_neg second]
  · rw [if_neg first, slugText, if_neg first]
    by_cases second : Plain platform right
    · rw [if_pos second, slugText_plain second]
      exact eq_comm
    · rw [if_neg second, slugText, if_neg second]
      exact shortened_inj

/-- Identifiers are apart exactly when their slugs differ. -/
theorem apart_iff {left right : String} :
    Apart platform left right ↔ slug platform left ≠ slug platform right :=
  not_congr slugText_eq_iff.symm

/-! ## Pairs of slugs -/

/-- A simplified form keeps only the characters of slugs. -/
theorem slugChar_of_squash {within : Bool} {text : Text} {c : Char}
    (member : c ∈ squash within text) : slugChar c = true := by
  induction text generalizing within with
  | nil => exact absurd member List.not_mem_nil
  | cons first rest ih =>
    rw [squash] at member
    split at member
    case isTrue kept =>
      rcases List.mem_cons.mp member with rfl | later
      · exact kept
      · exact ih later
    case isFalse =>
      split at member
      · exact ih member
      · rcases List.mem_cons.mp member with rfl | later
        · rfl
        · exact ih later

/-- Only a colon is lowered to a colon. -/
theorem colon_of_toLower {c : Char} (lowered : c.toLower = ':') : c = ':' := by
  by_cases upper : c.val ≥ 'A'.val ∧ c.val ≤ 'Z'.val
  · exfalso
    have letter : 65 ≤ c.toNat ∧ c.toNat ≤ 90 := upper
    have code : c.toLower.toNat = c.toNat + 32 := by
      delta Char.toLower
      rw [dif_pos upper]
      show (c.val + ('a'.val - 'A'.val)).toNat = c.toNat + 32
      rw [UInt32.toNat_add]
      show (c.toNat + 32) % 2 ^ 32 = c.toNat + 32
      omega
    rw [lowered] at code
    have colon : (':' : Char).toNat = 58 := rfl
    omega
  · have same : c.toLower = c := by
      delta Char.toLower
      exact dif_neg upper
    rw [← same]
    exact lowered

/-- No colon is in a simplified form. -/
theorem colon_not_mem_simpleText (raw : String) : ':' ∉ (simpleText raw).toList := by
  intro member
  rw [simpleText, String.toList_ofList, List.mem_map] at member
  obtain ⟨c, inside, lowered⟩ := member
  have kept : c ∈ squash false raw.toList := by
    have front := (List.dropWhile_sublist _).mem (List.mem_reverse.mp inside)
    exact (List.dropWhile_sublist _).mem (List.mem_reverse.mp front)
  have sound : slugChar c = true := slugChar_of_squash kept
  rw [colon_of_toLower lowered] at sound
  exact absurd sound (by decide)

/-- No colon is in a slug. -/
theorem colon_not_mem_slug (value : String) : ':' ∉ (slug platform value).toList := by
  rw [slug, slugText]
  split
  · exact colon_not_mem_simpleText _
  · have head : ':' ∉ (slugHead (strip value)).toList := by
      rw [slugHead]
      split
      · decide
      · rw [String.toList_ofList]
        exact fun member => colon_not_mem_simpleText _ (List.mem_of_mem_take member)
    have tag : ':' ∉ (slugTag platform (strip value)).toList := by
      have digits := platform.digest (strip value).toList
      rw [isDigestBody, Bool.and_eq_true] at digits
      rw [slugTag, String.toList_ofList]
      intro member
      have digit := List.all_eq_true.mp digits.2 ':' (List.mem_of_mem_take member)
      exact absurd digit (by decide)
    simp only [String.toList_append, List.mem_append, not_or]
    exact ⟨⟨head, by decide⟩, tag⟩

/-- Two slugs joined by a colon are equal when both are. -/
theorem joined_inj {left right left' right' : String} :
    slug platform left ++ ":" ++ slug platform right =
      slug platform left' ++ ":" ++ slug platform right' ↔
      slug platform left = slug platform left' ∧ slug platform right = slug platform right' := by
  constructor
  · intro same
    have texts := congrArg String.toList same
    rw [String.toList_append, String.toList_append, String.toList_append, String.toList_append,
      List.append_assoc, List.append_assoc] at texts
    have parts := (List.append_cons_inj_of_notMem (colon_not_mem_slug left)
      (colon_not_mem_slug right)).mp texts
    exact ⟨String.toList_injective parts.1, String.toList_injective parts.2.2⟩
  · intro parts
    rw [parts.1, parts.2]

end DTLab
