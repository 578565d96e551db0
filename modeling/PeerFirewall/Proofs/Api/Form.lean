import PeerFirewall.Api.Uri
import PeerFirewall.Proofs.Text.Utf8

/-!
# Parameters arrive as they were

The parameters of a query are written in the form encoding. Any texts may be parameters: what is
written holds no mark that ends a text, a parameter or the query, and the texts are read back from
it (`decodeText_encodeText`), one parameter after the other (`decodeQuery_queryText`).
-/
namespace PeerFirewall.Uri

/-! ### Bytes -/

/-- Whether a character may stand in a text in the form encoding. -/
def inForm (c : Char) : Bool := inQuery c && c != '&' && c != '='

/-- A byte in a form has such characters only, and three of them at most. -/
theorem encodeByte_plain (b : UInt8) :
    (encodeByte b).all inForm ∧ (String.ofList (encodeByte b)).utf8ByteSize ≤ 3 := by
  have each : ∀ n < 256, (encodeByte (UInt8.ofNat n)).all inForm ∧
      (String.ofList (encodeByte (UInt8.ofNat n))).utf8ByteSize ≤ 3 := by decide +kernel
  have this := each b.toNat b.toNat_lt
  rwa [UInt8.ofNat_toNat] at this

/-- How a byte stands in a form, as bytes. -/
inductive FormBytes (b : UInt8) : List UInt8 → Prop where
  /-- It stands for itself, and it is neither a percent sign nor a plus sign. -/
  | itself (noEscape : b ≠ 0x25) (noSpace : b ≠ 0x2b) : FormBytes b [b]
  /-- A plus sign stands for a space. -/
  | space (isSpace : b = 0x20) : FormBytes b [0x2b]
  /-- Two digits behind a percent sign stand for it. -/
  | escape {high low : UInt8} (isHigh : hexValue high = some (b.toNat / 16))
      (isLow : hexValue low = some (b.toNat % 16)) : FormBytes b [0x25, high, low]

/-- A hexadecimal digit is one byte, which has its value. -/
theorem hexValue_digit {n : Nat} (small : n < 16) :
    ∃ digit, String.utf8EncodeChar (Nat.digitChar n).toUpper = [digit] ∧
      hexValue digit = some n := by
  have each : ∀ n < 16,
      String.utf8EncodeChar (Nat.digitChar n).toUpper =
        [UInt8.ofNat (Nat.digitChar n).toUpper.toNat] ∧
      hexValue (UInt8.ofNat (Nat.digitChar n).toUpper.toNat) = some n := by decide
  exact ⟨_, each n small⟩

/-- A byte is the number of a character. -/
theorem toNat_charOf (b : UInt8) : (Char.ofNat b.toNat).toNat = b.toNat := by
  have valid : b.toNat.isValidChar := .inl (Nat.lt_trans b.toNat_lt (by decide))
  rw [Char.ofNat, dif_pos valid]
  rfl

/-- A byte in a form stands there in one of these ways. -/
theorem formBytes (b : UInt8) :
    FormBytes b ((encodeByte b).flatMap String.utf8EncodeChar) := by
  have below := b.toNat_lt
  have isNumber := toNat_charOf b
  unfold encodeByte
  generalize Char.ofNat b.toNat = c at isNumber
  have isByte : UInt8.ofNat c.toNat = b := isNumber ▸ UInt8.ofNat_toNat
  simp only
  split
  · rename_i plain
    obtain ⟨small, plain⟩ := plain
    have bytes : String.utf8EncodeChar c = [b] := by
      have short : c.toNat ≤ 127 := Nat.le_trans (Nat.le_of_eq isNumber) (Nat.le_of_lt_succ small)
      exact (if_pos short).trans (congrArg ([·]) isByte)
    rw [List.flatMap_singleton, bytes]
    refine .itself ?_ ?_ <;> rintro rfl <;> rw [← Char.ofNat_toNat c, isNumber] at plain <;>
      exact absurd plain (by decide)
  · split
    · rename_i isSpace
      exact .space (by rw [← isByte, isSpace]; rfl)
    · obtain ⟨high, isHigh, highValue⟩ := hexValue_digit (n := b.toNat / 16) (by omega)
      obtain ⟨low, isLow, lowValue⟩ := hexValue_digit (n := b.toNat % 16) (by omega)
      have bytes : ('%' :: twoHex b.toNat).flatMap String.utf8EncodeChar = [0x25, high, low] := by
        rw [twoHex, List.flatMap_cons, List.flatMap_cons, List.flatMap_singleton, isHigh, isLow]
        rfl
      rw [bytes]
      exact .escape highValue lowValue

/-- A byte that is no percent sign stands for itself, or for a space. -/
theorem decodeBytes_cons {b : UInt8} (noEscape : b ≠ 0x25) (rest : List UInt8) :
    decodeBytes (b :: rest) = (if b = 0x2b then 0x20 else b) :: decodeBytes rest := by
  match rest with
  | [] => simp only [decodeBytes]
  | [_] => simp only [decodeBytes, List.cons_append, List.nil_append]
  | _ :: _ :: _ => rw [decodeBytes, if_neg noEscape]

/-- A byte is read back from a form. -/
theorem decodeBytes_encodeByte (b : UInt8) (rest : List UInt8) :
    decodeBytes ((encodeByte b).flatMap String.utf8EncodeChar ++ rest) = b :: decodeBytes rest := by
  generalize isForm : (encodeByte b).flatMap String.utf8EncodeChar = bytes
  have stands : FormBytes b bytes := isForm ▸ formBytes b
  cases stands with
  | itself noEscape noSpace =>
    rw [List.singleton_append, decodeBytes_cons noEscape, if_neg noSpace]
  | space isSpace =>
    rw [List.singleton_append, decodeBytes_cons (by decide), if_pos rfl, isSpace]
  | @escape high low isHigh isLow =>
    have whole : b.toNat / 16 * 16 + b.toNat % 16 = b.toNat := by omega
    change decodeBytes (0x25 :: high :: low :: rest) = _
    rw [decodeBytes, if_pos rfl, isHigh, Option.bind_some, isLow, Option.map_some, whole]
    exact congrArg (· :: decodeBytes rest) (UInt8.ofNat_toNat)

/-- Bytes are read back from a form. -/
theorem decodeBytes_encodeBytes (bytes : List UInt8) :
    decodeBytes ((bytes.flatMap encodeByte).flatMap String.utf8EncodeChar) = bytes := by
  induction bytes with
  | nil => simp only [List.flatMap_nil, decodeBytes]
  | cons b rest ih => rw [List.flatMap_cons, List.flatMap_append, decodeBytes_encodeByte, ih]

/-! ### Texts -/

/-- A text in a form has such characters only. -/
theorem encodeText_inForm (text : String) : ∀ c ∈ (encodeText text).toList, inForm c := by
  intro c isIn
  rw [encodeText, String.toList_ofList] at isIn
  obtain ⟨b, _, isIn⟩ := List.mem_flatMap.1 isIn
  exact List.all_eq_true.1 (encodeByte_plain b).1 c isIn

/-- A text in a form has three times as many bytes at most. -/
theorem utf8ByteSize_encodeText (text : String) :
    (encodeText text).utf8ByteSize ≤ 3 * text.utf8ByteSize := by
  have each (bytes : List UInt8) :
      (String.ofList (bytes.flatMap encodeByte)).utf8ByteSize ≤ 3 * bytes.length := by
    induction bytes with
    | nil => exact Nat.le_refl _
    | cons b rest ih =>
      rw [List.flatMap_cons, String.ofList_append, String.utf8ByteSize_append, List.length_cons]
      have := (encodeByte_plain b).2
      omega
  rw [← Text.length_utf8Bytes text]
  exact each _

/-- A text is read back from a form. -/
theorem decodeText_encodeText (text : String) : decodeText (encodeText text).toList = text := by
  rw [decodeText, String.ofList_toList, encodeText, Text.utf8Bytes_ofList, decodeBytes_encodeBytes,
    Text.ofBytes_utf8Bytes]

/-! ### Queries -/

/-- A parameter as it stands in a form. -/
def encodeParameter (parameter : String × String) : String :=
  encodeText parameter.1 ++ "=" ++ encodeText parameter.2

/-- A parameter in a form has no mark that ends it or the query. -/
theorem encodeParameter_plain (parameter : String × String) :
    ∀ c ∈ (encodeParameter parameter).toList, inQuery c ∧ c ≠ '&' := by
  have plain (text : String) : ∀ c ∈ (encodeText text).toList, inQuery c ∧ c ≠ '&' :=
    fun c isIn => by
      have inForm := encodeText_inForm text c isIn
      simp only [Uri.inForm, Bool.and_eq_true, bne_iff_ne] at inForm
      exact inForm.1
  intro c isIn
  simp only [encodeParameter, String.toList_append, List.mem_append] at isIn
  rcases isIn with (isIn | isIn) | isIn
  · exact plain _ c isIn
  · cases List.mem_singleton.1 isIn
    decide
  · exact plain _ c isIn

/-- A parameter is read back from a form. -/
theorem decodeParameter_encodeParameter (parameter : String × String) :
    decodeParameter (encodeParameter parameter).toList = parameter := by
  have inName : ∀ c ∈ (encodeText parameter.1).toList, (c ≠ '=' : Bool) := fun c isIn => by
    have inForm := encodeText_inForm _ c isIn
    simp only [Uri.inForm, Bool.and_eq_true, bne_iff_ne] at inForm
    simpa using inForm.2
  have isText : (encodeParameter parameter).toList =
      (encodeText parameter.1).toList ++ '=' :: (encodeText parameter.2).toList := by
    simp [encodeParameter]
  rw [decodeParameter, isText, List.takeWhile_append_of_pos inName,
    List.dropWhile_append_of_pos inName]
  simp [decodeText_encodeText]

/-- The parameters of a query follow one another. -/
theorem encodeQuery_eq (query : List (String × String)) :
    encodeQuery query = "&".intercalate (query.map encodeParameter) := rfl

/-- A parameter in a form has three times as many bytes at most, and one between its texts. -/
theorem utf8ByteSize_encodeParameter (parameter : String × String) :
    (encodeParameter parameter).utf8ByteSize ≤
      3 * (parameter.1.utf8ByteSize + parameter.2.utf8ByteSize) + 1 := by
  have name := utf8ByteSize_encodeText parameter.1
  have value := utf8ByteSize_encodeText parameter.2
  have equals : "=".utf8ByteSize = 1 := rfl
  rw [encodeParameter, String.utf8ByteSize_append, String.utf8ByteSize_append, equals]
  omega

/-- A query in a form is as long as its parameters, with one byte between them, at most. -/
theorem utf8ByteSize_encodeQuery {query : List (String × String)} {most : Nat}
    (short : ∀ parameter ∈ query, (encodeParameter parameter).utf8ByteSize + 1 ≤ most) :
    (encodeQuery query).utf8ByteSize ≤ query.length * most := by
  rw [encodeQuery_eq]
  induction query with
  | nil => exact Nat.zero_le _
  | cons parameter rest ih =>
    obtain ⟨first, others⟩ := List.forall_mem_cons.1 short
    have later := ih others
    have between : "&".utf8ByteSize = 1 := rfl
    rw [List.length_cons, Nat.succ_mul]
    cases rest with
    | nil =>
      rw [List.map_singleton, String.intercalate_singleton]
      omega
    | cons other rest =>
      rw [List.map_cons] at later ⊢
      rw [List.map_cons, String.intercalate_cons_cons, String.utf8ByteSize_append,
        String.utf8ByteSize_append, between]
      omega

/-- A query in a form has no character that may not stand in a query. -/
theorem encodeQuery_inQuery (query : List (String × String)) :
    ∀ c ∈ (encodeQuery query).toList, inQuery c := by
  rw [encodeQuery_eq]
  induction query with
  | nil =>
    rw [List.map_nil, String.intercalate_nil]
    exact nofun
  | cons parameter rest ih =>
    have plain : ∀ c ∈ (encodeParameter parameter).toList, inQuery c := fun c isIn =>
      (encodeParameter_plain parameter c isIn).1
    cases rest with
    | nil => rwa [List.map_singleton, String.intercalate_singleton]
    | cons other rest =>
      intro c isIn
      rw [List.map_cons, List.map_cons, String.intercalate_cons_cons, String.toList_append,
        String.toList_append, List.mem_append, List.mem_append] at isIn
      rcases isIn with (isIn | isIn) | isIn
      · exact plain c isIn
      · cases List.mem_singleton.1 isIn
        decide
      · exact ih c isIn

/-- The parameters of a query are read back behind an ampersand. -/
theorem decodeQuery_encodeQuery (query : List (String × String)) :
    decodeQuery ('&' :: (encodeQuery query).toList) = query := by
  cases query with
  | nil => decide
  | cons parameter rest =>
    have isText : '&' :: (encodeQuery (parameter :: rest)).toList =
        ['&'].intercalate ([] :: (parameter :: rest).map (String.toList ∘ encodeParameter)) := by
      rw [encodeQuery_eq, String.toList_intercalate, List.map_map]
      simp
    have parted : ∀ part ∈ [] :: (parameter :: rest).map (String.toList ∘ encodeParameter),
        '&' ∉ part := by
      rw [List.forall_mem_cons, List.forall_mem_map]
      exact ⟨List.not_mem_nil, fun other _ isIn => (encodeParameter_plain other '&' isIn).2 rfl⟩
    have keeps : ∀ part ∈ (parameter :: rest).map (String.toList ∘ encodeParameter),
        (part ≠ [] : Bool) := by
      rw [List.forall_mem_map]
      intro other _
      simp [encodeParameter]
    rw [decodeQuery, isText, List.splitOn_intercalate '&' parted (List.cons_ne_nil _ _),
      List.filter_cons_of_neg (by decide), List.filter_eq_self.2 keeps, List.map_map]
    exact List.map_id'' (fun other => decodeParameter_encodeParameter other) _

/-- What stands behind the question mark of an address. -/
def queryText (query : List (String × String)) : String :=
  if query.isEmpty then "" else "&" ++ encodeQuery query

/-- The query of an address stands behind a question mark. -/
theorem mark_queryText (query : List (String × String)) :
    (if query.isEmpty then "?" else "?&" ++ encodeQuery query) = "?" ++ queryText query := by
  unfold queryText
  split
  · rfl
  · rw [← String.append_assoc]
    rfl

/-- The query of an address has no character that may not stand in a query. -/
theorem queryText_inQuery (query : List (String × String)) :
    ∀ c ∈ (queryText query).toList, inQuery c := by
  intro c isIn
  unfold queryText at isIn
  split at isIn
  · exact absurd isIn List.not_mem_nil
  · rw [String.toList_append, List.mem_append] at isIn
    rcases isIn with isIn | isIn
    · cases List.mem_singleton.1 isIn
      decide
    · exact encodeQuery_inQuery query c isIn

/-- The parameters of a query are read back from an address. -/
theorem decodeQuery_queryText (query : List (String × String)) :
    decodeQuery (queryText query).toList = query := by
  unfold queryText
  split
  · rename_i isEmpty
    rw [List.isEmpty_iff.1 isEmpty]
    decide
  · rw [String.toList_append]
    exact decodeQuery_encodeQuery query

end PeerFirewall.Uri
