import IssuerGate.Issuer.Store
import IssuerGate.Proofs.Issuer.Line
import Mathlib.Tactic.Tauto

/-!
# IssuerGate — records of new issuers

The fields of a new record are texts and nulls, so such a record is read back and always fits. What
is drawn for it and the time of its creation are in ASCII, so an encoding carries the record if and
only if it carries what the draft says and the id, `Record.encodable_ofDraft`.
-/

namespace IssuerGate

namespace Text

theorem isEncodable_append (s t : Text) :
    Text.isEncodable (s ++ t) = (s.isEncodable && t.isEncodable) := List.all_append

theorem isEncodable_ofChars (cs : List Char) : (ofChars cs).isEncodable = true := by
  rw [← isSome_chars?, chars?_ofChars]
  rfl

theorem isEncodable_hexDigits (width n : Nat) : (hexDigits width n).isEncodable = true :=
  List.all_eq_true.mpr fun _ hc =>
    Json.isSome_char?_of_val_lt (Json.isPrintableAscii_iff.mp
      (Json.isPrintableAscii_of_mem_hexDigits hc)).2

end Text

theorem Hex.isEncodable_encode (bs : Bytes) : (Hex.encode bs).isEncodable = true := by
  induction bs with
  | nil => rfl
  | cons b bs ih =>
    have hcons : Hex.encode (b :: bs) = Text.hexDigits 2 b.toNat ++ Hex.encode bs := rfl
    rw [hcons, Text.isEncodable_append, Text.isEncodable_hexDigits, ih]
    rfl

/-- A key of random bytes has a hash. -/
theorem ApiKey.hash_ofBytes (bs : Bytes) : hash (ofBytes bs) = .ok (digest (ofBytes bs)) := by
  have hkey : (ofBytes bs).isEncodable = true := by
    unfold ofBytes
    rw [Text.isEncodable_append, Hex.isEncodable_encode, Bool.and_true]
    exact Text.isEncodable_ofChars _
  exact hash_eq_ok_iff.mpr ⟨hkey, rfl⟩

/-- A key that was issued can be hashed. -/
theorem Mint.hash_apiKey_issue (m : Mint) (publicKey : Option Text) :
    ApiKey.hash (m.issue publicKey).2.apiKey
      = .ok (ApiKey.digest (m.issue publicKey).2.apiKey) := by
  unfold issue
  cases publicKey.filter (· ≠ []) <;> exact ApiKey.hash_ofBytes _

theorem Calendar.isEncodable_digits (width n : Nat) : (digits width n).isEncodable = true := by
  have hzeros : Text.isEncodable
      (List.replicate (width - (Text.ofNat n).length) (.scalar '0')) = true := by
    refine List.all_eq_true.mpr fun c hc => ?_
    rw [List.eq_of_mem_replicate hc]
    rfl
  unfold digits Text.padded
  rw [Text.isEncodable_append, hzeros]
  exact Text.isEncodable_ofChars _

theorem Calendar.isEncodable_text (t : Instant) : (text t).isEncodable = true := by
  have hmark (c : Char) (u : Text) : Text.isEncodable (.scalar c :: u) = u.isEncodable := rfl
  have hnil : Text.isEncodable [] = true := rfl
  unfold text
  dsimp only [Text.join]
  split_ifs <;> simp only [Text.isEncodable_append, hmark, hnil, isEncodable_digits, Bool.and_self]

theorem Calendar.isEncodable_textUtc (t : Instant) : (textUtc t).isEncodable = true := by
  unfold textUtc
  rw [Text.isEncodable_append, isEncodable_text]
  exact Text.isEncodable_ofChars _

namespace Issuer

/-- Can an encoding carry the texts of a draft? -/
def Draft.isEncodable (d : Draft) : Bool :=
  [d.name, d.publicKey, d.description, d.website, d.contactEmail].all
    fun t => (t.map Text.isEncodable).getD true

theorem isEncodable_ofText? (t : Option Text) :
    (ofText? t).isEncodable = (t.map Text.isEncodable).getD true := by
  cases t <;> rfl

/-- An encoding carries a public key that is drawn, and one that is brought if it carries that. -/
theorem isEncodable_publicKey_issue (m : Mint) (publicKey : Option Text) :
    (m.issue publicKey).2.publicKey.isEncodable = (publicKey.map Text.isEncodable).getD true := by
  unfold Mint.issue
  cases publicKey with
  | none => exact Hex.isEncodable_encode _
  | some pk =>
    by_cases hpk : pk = []
    · rw [Option.filter_some_neg (by simpa using hpk), hpk]
      exact Hex.isEncodable_encode _
    · rw [Option.filter_some_pos (by simpa using hpk)]
      rfl

namespace Record

variable (d : Draft) (m : Mint)

/-- The record of a draft is made of texts, a flag and nulls, all of which are read back. -/
theorem plain_ofDraft (issued : Mint.Issued) (createdAt : Text) :
    ∀ m ∈ (ofDraft d issued createdAt).members, m.2.isPlain = true := by
  have hoptional (t : Option Text) : (ofText? t).isPlain = true := by cases t <;> rfl
  unfold members
  simp only [List.forall_mem_cons, List.not_mem_nil, false_implies, implies_true, and_true]
  exact ⟨rfl, hoptional _, rfl, rfl, rfl, rfl, hoptional _, hoptional _, hoptional _, rfl⟩

/-- The record of a draft nests nothing. -/
theorem overrun?_ofDraft (issued : Mint.Issued) (createdAt : Text) {room : Nat} (hroom : 3 ≤ room) :
    (ofDraft d issued createdAt).overrun? room = none := by
  have hsimple := Json.overrunSimple?_eq_none_iff.mpr hroom
  have hoptional (t : Option Text) : (ofText? t).overrun? room = none := by
    cases t <;> exact hsimple
  rw [overrun?_eq_none_iff]
  unfold members
  simp only [List.forall_mem_cons, List.not_mem_nil, false_implies, implies_true, and_true]
  exact ⟨hsimple, hoptional _, hsimple, hsimple, hsimple, hsimple, hoptional _, hoptional _,
    hoptional _, hsimple⟩

/-- **An encoding carries a new record if and only if it carries its draft and its id.** -/
theorem encodable_ofDraft (now : Calendar.Instant) :
    (∀ f ∈ (ofDraft d (m.issue d.publicKey).2 (Calendar.textUtc now)).members,
        f.2.isEncodable = true)
      ↔ (d.isEncodable && (m.issue d.publicKey).2.id.isEncodable) = true := by
  have htext (t : Text) : (Json.str t).isEncodable = t.isEncodable := rfl
  have htier : d.tier.name.isEncodable = true := by cases d.tier <;> rfl
  have hflag : (Json.bool true).isEncodable = true := rfl
  have hhash : (ApiKey.digest (m.issue d.publicKey).2.apiKey).isEncodable = true :=
    Hex.isEncodable_encode _
  -- of the ten members the tier, flag, hash and date can always be encoded; what is left is the
  -- draft and the id
  unfold members ofDraft Draft.isEncodable
  simp only [List.forall_mem_cons, List.not_mem_nil, false_implies, implies_true, and_true,
    htext, htier, hflag, hhash, isEncodable_ofText?, isEncodable_publicKey_issue,
    Calendar.isEncodable_textUtc, List.all_cons, List.all_nil, Bool.and_true, Bool.and_eq_true,
    true_and]
  tauto

end Record

/-- So do the texts of the row of a new issuer. -/
theorem isEncodable_entry (d : Draft) (m : Mint) :
    (Table.entry d (m.issue d.publicKey).2).isEncodable
      = (d.isEncodable && (m.issue d.publicKey).2.id.isEncodable) := by
  have htier : d.tier.name.isEncodable = true := by cases d.tier <;> rfl
  have hhash : (ApiKey.digest (m.issue d.publicKey).2.apiKey).isEncodable = true :=
    Hex.isEncodable_encode _
  rw [Bool.eq_iff_iff]
  unfold Entry.isEncodable Table.entry Draft.isEncodable
  simp only [htier, hhash, isEncodable_publicKey_issue, List.all_cons, List.all_nil,
    Option.map_some, Option.getD_some, Bool.and_true, Bool.and_eq_true]
  tauto

end Issuer

end IssuerGate
