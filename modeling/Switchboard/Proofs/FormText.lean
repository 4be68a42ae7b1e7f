import Mathlib.Data.List.TakeWhile
import Switchboard.Form
import Switchboard.Proofs.Lists
import Switchboard.Proofs.Percent
import Switchboard.Proofs.Utf8

/-!
# Form data read back

The other side takes form data apart at every `&`, each part at its first `=`, and decodes what
stands on both sides. Written names and values hold neither of these marks (`isFormChar_of_mem`), and
each of them is read back as it was (`decodeText_encodeText`), so the pairs that are read are the
pairs that were written, whatever their texts are (`decode_encode`).
-/

namespace Switchboard.Form

/-! ## Reading -/

/-- A plus sign stands for a space. -/
def spaced (c : Char) : Char := if c = '+' then ' ' else c

/-- A name or a value read back; what is no text after all is replaced. -/
def decodeText (cs : List Char) : String :=
  String.ofList (Text.Utf8.decodeLenient (Percent.decode (cs.map spaced)))

/-- The pair in a part; a part without an equals sign is a name. -/
def decodePair (cs : List Char) : String × String :=
  (decodeText (cs.takeWhile (· ≠ '=')), decodeText ((cs.dropWhile (· ≠ '=')).drop 1))

/-- The pairs in form data; an empty part holds none. -/
def decode (cs : List Char) : List (String × String) :=
  ((cs.splitOn '&').filter (!·.isEmpty)).map decodePair

/-! ## Names and values -/

/-- Characters in the written form of a name or a value. -/
def isFormChar (c : Char) : Bool := Percent.inForm c || c = '%' || c = '+'

theorem isFormChar_of_mem {s : String} {c : Char} (h : c ∈ encodeText s) : isFormChar c = true := by
  obtain ⟨d, -, hc⟩ := List.mem_flatMap.mp h
  unfold encodeChar at hc
  split at hc
  · rw [List.mem_singleton.mp hc]
    rfl
  · rcases Percent.mem_encodeChar hc with hkeep | rfl | halnum
    · simp [isFormChar, hkeep]
    · rfl
    · simp [isFormChar, Percent.inForm, halnum]

theorem map_spaced {cs : List Char} (h : '+' ∉ cs) : cs.map spaced = cs := by
  have hid : ∀ c ∈ cs, spaced c = c := fun c hc => if_neg fun heq : c = '+' => h (heq ▸ hc)
  exact (List.map_congr_left hid).trans (List.map_id cs)

/-- A character is read back as its octets: a space from a plus sign, a plus sign from its octet. -/
theorem decode_encodeChar (c : Char) (rest : List Char) :
    Percent.decode ((encodeChar c).map spaced ++ rest) =
      String.utf8EncodeChar c ++ Percent.decode rest := by
  unfold encodeChar
  split
  · next hspace =>
    subst hspace
    exact Percent.decode_cons (by decide) rest
  · unfold Percent.encodeChar
    split
    · next hkeep =>
      have hne {d : Char} (hd : Percent.inForm d = false) : c ≠ d := fun heq => by
        rw [heq, hd] at hkeep
        cases hkeep
      have hplus : '+' ∉ [c] := fun hmem => hne (by decide) (List.mem_singleton.mp hmem).symm
      rw [map_spaced hplus, List.singleton_append, Percent.decode_cons (hne (by decide))]
    · have hplus : '+' ∉ (String.utf8EncodeChar c).flatMap Percent.octet := fun hmem => by
        obtain ⟨b, -, hb⟩ := List.mem_flatMap.mp hmem
        rcases Percent.isAlphanum_of_mem_octet hb with hpercent | halnum
        · exact absurd hpercent (by decide)
        · exact absurd halnum (by decide)
      rw [map_spaced hplus, Percent.decode_octets]

theorem decodeText_encodeText (s : String) : decodeText (encodeText s) = s := by
  have hoctets : ∀ cs : List Char,
      Percent.decode ((cs.flatMap encodeChar).map spaced) = Text.Utf8.encode cs := by
    intro cs
    induction cs with
    | nil => rfl
    | cons c rest ih =>
      rw [List.flatMap_cons, List.map_append, decode_encodeChar, ih, Text.Utf8.encode_cons]
  rw [decodeText, encodeText, hoctets, Text.Utf8.decodeLenient_encode, String.ofList_toList]

/-! ## Pairs -/

theorem not_mem_encodeText {c : Char} (hc : isFormChar c = false) (s : String) :
    c ∉ encodeText s := fun hmem => by
  rw [isFormChar_of_mem hmem] at hc
  cases hc

theorem not_mem_encodePair (pair : String × String) : '&' ∉ encodePair pair := fun hmem => by
  rcases List.mem_append.mp hmem with hname | hvalue
  · exact not_mem_encodeText (by decide) _ hname
  · rcases List.mem_cons.mp hvalue with hequals | hvalue
    · exact absurd hequals (by decide)
    · exact not_mem_encodeText (by decide) _ hvalue

theorem decodePair_encodePair (pair : String × String) : decodePair (encodePair pair) = pair := by
  have hname : ∀ c ∈ encodeText pair.1, decide (c ≠ '=') = true := fun c hc =>
    decide_eq_true fun heq => not_mem_encodeText (by decide) _ (heq ▸ hc)
  simp only [decodePair, encodePair, List.takeWhile_append_of_pos hname,
    List.dropWhile_append_of_pos hname, List.takeWhile_cons, List.dropWhile_cons]
  simp [decodeText_encodeText]

/-- Pairs are written one after the other, with a mark in front of each but the first. -/
theorem append_eq {text : List Char} (h : text ≠ []) (pairs : List (String × String)) :
    append text pairs = text ++ pairs.flatMap fun pair => '&' :: encodePair pair := by
  induction pairs generalizing text with
  | nil => exact (List.append_nil text).symm
  | cons pair rest ih =>
    have hne : (text.isEmpty) = false := by simp [h]
    simp only [append, hne, Bool.false_eq_true, if_false]
    rw [ih (by simp), List.flatMap_cons]
    simp

theorem encode_cons (pair : String × String) (pairs : List (String × String)) :
    encode (pair :: pairs) =
      encodePair pair ++ pairs.flatMap fun pair => '&' :: encodePair pair := by
  have hne : encodePair pair ≠ [] := by simp [encodePair]
  exact append_eq hne pairs

theorem encode_eq_nil_iff {pairs : List (String × String)} : encode pairs = [] ↔ pairs = [] := by
  cases pairs with
  | nil => exact ⟨fun _ => rfl, fun _ => rfl⟩
  | cons pair rest => simp [encode_cons, encodePair]

/-- What is read from form data is what was written, pair by pair. -/
theorem decode_encode (pairs : List (String × String)) : decode (encode pairs) = pairs := by
  cases pairs with
  | nil => rfl
  | cons pair rest =>
    have hsplit : (encode (pair :: rest)).splitOn '&' = (pair :: rest).map encodePair := by
      rw [encode_cons, splitOn_append_flatMap (not_mem_encodePair pair) fun other _ =>
        not_mem_encodePair other]
      rfl
    have hfull : ∀ part ∈ (pair :: rest).map encodePair, (!part.isEmpty) = true := by
      intro part hpart
      obtain ⟨other, -, rfl⟩ := List.mem_map.mp hpart
      simp [encodePair]
    have hid : decodePair ∘ encodePair = id := funext decodePair_encodePair
    rw [decode, hsplit, List.filter_eq_self.mpr hfull, List.map_map, hid, List.map_id]

end Switchboard.Form
