import NodeLookup.Client
import NodeLookup.Exchange.Wire
import NodeLookup.Proofs.Url.PercentEncoding

/-!
# What a client can send

A request is given to the HTTP client only if none of its header values holds a control that a header
cannot carry. `isSendable_request_iff` says so by the bytes of the project and the token alone, since a
user name and a password come out printable whatever they hold. Nothing that is sent has a line end in
a header value, so no value makes a header line of its own.
-/

namespace NodeLookup

/-- A text holds a control byte other than a tab. -/
def HoldsControl (text : String) : Prop :=
  ∃ byte ∈ Text.encode text.toList, (byte < 0x20 ∧ byte ≠ 0x09) ∨ byte = 0x7F

namespace Client

open Request (isHeaderValue)

/-! ## Header values -/

/-- The bytes of a character beyond ASCII are no controls. -/
theorem le_of_mem_encodeChar {char : Char} (beyond : 0x7F < char.toNat) {byte : UInt8}
    (mem : byte ∈ String.utf8EncodeChar char) : 0x80 ≤ byte.toNat := by
  have scalar : char.toNat < 0xD800 ∨ 0xDFFF < char.toNat ∧ char.toNat < 0x110000 := char.valid
  have number : char.val.toNat = char.toNat := rfl
  simp only [String.utf8EncodeChar, number] at mem
  generalize char.toNat = value at scalar beyond mem
  rw [if_neg (by omega)] at mem
  split at mem
  · simp only [List.mem_cons, List.not_mem_nil, or_false] at mem
    rcases mem with rfl | rfl <;> rw [UInt8.toNat_ofNat'] <;> omega
  split at mem
  · simp only [List.mem_cons, List.not_mem_nil, or_false] at mem
    rcases mem with rfl | rfl | rfl <;> rw [UInt8.toNat_ofNat'] <;> omega
  · simp only [List.mem_cons, List.not_mem_nil, or_false] at mem
    rcases mem with rfl | rfl | rfl | rfl <;> rw [UInt8.toNat_ofNat'] <;> omega

/-- A character has a control byte exactly if it is a control itself. -/
theorem holdsControl_char_iff {char : Char} :
    (∃ byte ∈ String.utf8EncodeChar char, (byte < 0x20 ∧ byte ≠ 0x09) ∨ byte = 0x7F) ↔
      (char.toNat < 0x20 ∧ char.toNat ≠ 0x09) ∨ char.toNat = 0x7F := by
  by_cases ascii : char.toNat ≤ 0x7F
  · have small : (UInt8.ofNat char.toNat).toNat = char.toNat := by
      rw [UInt8.toNat_ofNat']
      omega
    rw [Url.encodeChar_ascii ascii]
    simp only [List.mem_singleton, exists_eq_left]
    simp only [UInt8.lt_iff_toNat_lt, ne_eq, ← UInt8.toNat_inj, small]
    rfl
  · have beyond : 0x7F < char.toNat := by omega
    refine iff_of_false ?_ (by omega)
    rintro ⟨byte, mem, control⟩
    have high := le_of_mem_encodeChar beyond mem
    simp only [UInt8.lt_iff_toNat_lt, ← UInt8.toNat_inj] at control
    have bounds : (0x20 : UInt8).toNat = 0x20 ∧ (0x7F : UInt8).toNat = 0x7F := by decide
    omega

/-- A text can be the value of a header exactly if it holds no control. -/
theorem isHeaderValue_iff {value : String} : isHeaderValue value = true ↔ ¬HoldsControl value := by
  have held : HoldsControl value ↔
      ∃ char ∈ value.toList, (char.toNat < 0x20 ∧ char.toNat ≠ 0x09) ∨ char.toNat = 0x7F := by
    simp only [HoldsControl, Text.encode, List.mem_flatMap, ← holdsControl_char_iff]
    constructor
    · rintro ⟨byte, ⟨char, mem, isByte⟩, control⟩
      exact ⟨char, mem, byte, isByte, control⟩
    · rintro ⟨char, mem, byte, isByte, control⟩
      exact ⟨byte, ⟨char, mem, isByte⟩, control⟩
  have tab : ∀ char : Char, char = '\t' ↔ char.toNat = 0x09 := fun char =>
    ⟨fun same => same ▸ rfl, fun same => Char.toNat_inj.mp same⟩
  rw [held]
  simp only [isHeaderValue, List.all_eq_true, Bool.or_eq_true, beq_iff_eq, Bool.and_eq_true,
    decide_eq_true_eq, bne_iff_ne, tab, not_exists, not_and, ne_eq]
  refine forall₂_congr fun char _ => ?_
  omega

/-- A header value has no line end. -/
theorem noLineEnd_of_isHeaderValue {value : String} (fits : isHeaderValue value = true) :
    '\r' ∉ value.toList ∧ '\n' ∉ value.toList := by
  rw [isHeaderValue, List.all_eq_true] at fits
  exact ⟨fun mem => absurd (fits _ mem) (by decide), fun mem => absurd (fits _ mem) (by decide)⟩

/-! ## User names and passwords -/

/-- A digit of base 64 is printable. -/
theorem toNat_base64Digit (value : Nat) :
    0x20 ≤ (Text.base64Digit value).toNat ∧ (Text.base64Digit value).toNat < 0x7F := by
  have letters : ∀ number < 0x7F, (Char.ofNat number).toNat = number := by decide
  unfold Text.base64Digit
  split
  · rw [letters _ (by omega)]
    omega
  split
  · rw [letters _ (by omega)]
    omega
  split
  · rw [letters _ (by omega)]
    omega
  split <;> decide

/-- Whatever bytes are written in base 64, what is written is printable. -/
theorem toNat_of_mem_base64 {bytes : List UInt8} {char : Char} (mem : char ∈ Text.base64 bytes) :
    0x20 ≤ char.toNat ∧ char.toNat < 0x7F := by
  have fill : 0x20 ≤ '='.toNat ∧ '='.toNat < 0x7F := by decide
  fun_induction Text.base64 bytes with
  | case1 => cases mem
  | case2 first bits =>
    simp only [List.mem_cons, List.not_mem_nil, or_false] at mem
    rcases mem with rfl | rfl | rfl | rfl <;> first | exact fill | exact toNat_base64Digit _
  | case3 first second bits =>
    simp only [List.mem_cons, List.not_mem_nil, or_false] at mem
    rcases mem with rfl | rfl | rfl | rfl <;> first | exact fill | exact toNat_base64Digit _
  | case4 first second third rest bits inductionHypothesis =>
    simp only [List.mem_cons] at mem
    rcases mem with rfl | rfl | rfl | rfl | later
    · exact toNat_base64Digit _
    · exact toNat_base64Digit _
    · exact toNat_base64Digit _
    · exact toNat_base64Digit _
    · exact inductionHypothesis later

/-- A user name and a password can always be sent. -/
theorem isHeaderValue_basicAuthorization? {authority : Url.Authority} {value : String}
    (proof : basicAuthorization? authority = some value) : isHeaderValue value = true := by
  unfold basicAuthorization? at proof
  split at proof
  · cases proof
  dsimp only at proof
  split at proof
  · cases proof
  cases proof
  rw [isHeaderValue, String.toList_append, List.all_append, Bool.and_eq_true]
  refine ⟨by decide, ?_⟩
  rw [String.toList_ofList, List.all_eq_true]
  intro char mem
  have printable := toNat_of_mem_base64 mem
  simp only [Bool.or_eq_true, beq_iff_eq, Bool.and_eq_true, decide_eq_true_eq, bne_iff_ne]
  omega

/-- An endpoint has a user name or a password. -/
def HasUser (endpoint : Url) : Prop :=
  ∃ authority, endpoint.authority = some authority ∧
    (authority.user ≠ [] ∨ authority.password ≠ [])

/-- Only an endpoint with a user name or a password makes a header of them. -/
theorem hasUser_of_authorizationHeader {url : Url} {header : String × String}
    (made : header ∈ authorizationHeader url) : HasUser url := by
  unfold authorizationHeader at made
  split at made
  · cases made
  · next value proof =>
    obtain ⟨authority, isAuthority, proof⟩ := Option.bind_eq_some_iff.mp proof
    refine ⟨authority, isAuthority, ?_⟩
    by_contra none
    simp only [ne_eq, not_or, not_not] at none
    have nothing : basicAuthorization? authority = Option.none := by
      simp [basicAuthorization?, none, Text.encode, Url.percentDecode, Text.decode?, Text.units]
    rw [nothing] at proof
    cases proof

/-! ## Requests -/

variable {client : Client} {url : Url}

/-- A request can be sent exactly if neither the project nor the token holds a control. -/
theorem isSendable_request_iff :
    (client.request url).isSendable = true ↔ ¬HoldsControl client.credentials.projectId ∧
      ∀ token, client.credentials.authentication = .token token → ¬HoldsControl token := by
  have fixed : isHeaderValue "application/json" = true := by decide
  have user : (authorizationHeader url).all (fun header => isHeaderValue header.2) = true := by
    unfold authorizationHeader
    split
    · rfl
    · next value proof =>
      obtain ⟨authority, -, proof⟩ := Option.bind_eq_some_iff.mp proof
      simpa using isHeaderValue_basicAuthorization? proof
  have token : (tokenHeader client.credentials.authentication).all
      (fun header => isHeaderValue header.2) = true ↔
        ∀ token, client.credentials.authentication = .token token → ¬HoldsControl token := by
    cases client.credentials.authentication with
    | anonymous => simp [tokenHeader]
    | token value => simp [tokenHeader, isHeaderValue_iff]
  simp only [Request.isSendable, request, List.all_append, List.all_cons, List.all_nil, fixed, user,
    Bool.and_true, Bool.true_and, Bool.and_eq_true, token, isHeaderValue_iff]

end Client

end NodeLookup
