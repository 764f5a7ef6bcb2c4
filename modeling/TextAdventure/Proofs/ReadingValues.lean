import TextAdventure.MessagePack.Value
import TextAdventure.MessagePack.Writing
import Mathlib.Algebra.Group.Nat.Defs
import Mathlib.Data.List.Forall2
import Mathlib.Tactic.FinCases

/-!
# Reading values

A value can be written in several ways: a size, or a number, may take more bytes than it needs.  In
whichever way a value is written, it is read as this value, and nothing of what follows it is
touched.  This holds for every width of header, so it carries over from the numbers in the headers
to the nested lists and maps that are built from them.  Writing chooses one of these ways.
-/

namespace TextAdventure.MessagePack

/-! ## Numbers -/

@[simp] theorem length_toBigEndian (width n : ℕ) : (toBigEndian width n).length = width := by
  induction width generalizing n with
  | zero => rfl
  | succ width ih => simp [toBigEndian, ih]

theorem bigEndian_append_singleton (bytes : List UInt8) (last : UInt8) :
    bigEndian (bytes ++ [last]) = bigEndian bytes * 256 + last.toNat := by
  simp [bigEndian]

/-- The digits of a number stand for it when there are enough of them. -/
theorem bigEndian_toBigEndian {width n : ℕ} (hn : n < 256 ^ width) :
    bigEndian (toBigEndian width n) = n := by
  induction width generalizing n with
  | zero =>
      have hzero : n = 0 := by simpa using hn
      simp [toBigEndian, bigEndian, hzero]
  | succ width ih =>
      have hquotient : n / 256 < 256 ^ width := by
        rw [Nat.div_lt_iff_lt_mul (by decide)]
        rwa [Nat.pow_succ] at hn
      have hlast : (UInt8.ofNat n).toNat = n % 256 := UInt8.toNat_ofNat'
      rw [toBigEndian, bigEndian_append_singleton, ih hquotient, hlast]
      omega

theorem takeChunk_append (chunk rest : List UInt8) :
    takeChunk chunk.length (chunk ++ rest) = some (chunk, rest) := by
  simp [takeChunk]

theorem takeNumber_append {width n : ℕ} (hn : n < 256 ^ width) (rest : List UInt8) :
    takeNumber width (toBigEndian width n ++ rest) = some (n, rest) := by
  have hchunk := takeChunk_append (toBigEndian width n) rest
  rw [length_toBigEndian] at hchunk
  simp [takeNumber, hchunk, bigEndian_toBigEndian hn]

theorem toNat_ofNat_of_lt {n : ℕ} (hn : n < 256) : (UInt8.ofNat n).toNat = n := by
  rw [UInt8.toNat_ofNat', Nat.mod_eq_of_lt hn]

/-! ## Counts -/

/-- How counts are written: in the first byte, from `base` on, as long as they are below `fixed`, or
behind a marker, in as many bytes as belong to the marker. -/
structure CountFormat where
  base : ℕ
  fixed : ℕ
  markers : List (UInt8 × ℕ)

namespace CountFormat

/-- The number of the bytes of a text. -/
def text : CountFormat := ⟨0xA0, 32, [(0xD9, 1), (0xDA, 2), (0xDB, 4)]⟩

/-- The number of bytes that are no text. -/
def binary : CountFormat := ⟨0, 0, [(0xC4, 1), (0xC5, 2), (0xC6, 4)]⟩

/-- The number of the values of an array. -/
def array : CountFormat := ⟨0x90, 16, [(0xDC, 2), (0xDD, 4)]⟩

/-- The number of the entries of a map. -/
def map : CountFormat := ⟨0x80, 16, [(0xDE, 2), (0xDF, 4)]⟩

/-- A number that is a value itself. -/
def unsigned : CountFormat := ⟨0, 0x80, [(0xCC, 1), (0xCD, 2), (0xCE, 4), (0xCF, 8)]⟩

/-- The bytes are one of the ways to write the number, not always the shortest. -/
inductive Writes (format : CountFormat) (n : ℕ) : List UInt8 → Prop
  | fixed (hn : n < format.fixed) : Writes format n [UInt8.ofNat (format.base + n)]
  | wide {marker : UInt8} {width : ℕ} (hmarker : (marker, width) ∈ format.markers)
      (hn : n < 256 ^ width) : Writes format n (marker :: toBigEndian width n)

/-- The numbers of the format are read as headers of this kind. -/
structure Announces (format : CountFormat) (header : ℕ → Header) : Prop where
  fixed : ∀ n < format.fixed, ∀ rest,
    takeHeader (UInt8.ofNat (format.base + n) :: rest) = some (header n, rest)
  wide : ∀ entry ∈ format.markers, ∀ rest, takeHeader (entry.1 :: rest) =
    (takeNumber entry.2 rest).map fun (n, rest) => (header n, rest)

theorem Announces.takeHeader_append {format : CountFormat} {header : ℕ → Header}
    (hformat : format.Announces header) {n : ℕ} {head : List UInt8} (hhead : format.Writes n head)
    (rest : List UInt8) : takeHeader (head ++ rest) = some (header n, rest) := by
  cases hhead with
  | fixed hn => exact hformat.fixed n hn rest
  | wide hmarker hn =>
      rw [List.cons_append, hformat.wide _ hmarker, takeNumber_append hn]
      rfl

theorem Announces.takeHeader_body {format : CountFormat} {header : ℕ → Header}
    (hformat : format.Announces header) {n : ℕ} {head : List UInt8} (hhead : format.Writes n head)
    (body rest : List UInt8) :
    takeHeader (head ++ body ++ rest) = some (header n, body ++ rest) := by
  rw [List.append_assoc]
  exact hformat.takeHeader_append hhead (body ++ rest)

theorem text_announces : text.Announces .text := by
  constructor
  · intro n hn rest
    change n < 32 at hn
    have hbyte : (UInt8.ofNat (0xA0 + n)).toNat = 0xA0 + n := toNat_ofNat_of_lt (by omega)
    simp only [text, takeHeader, hbyte]
    rw [if_neg (by omega), if_neg (by omega), if_neg (by omega), if_pos (by omega),
      Nat.add_sub_cancel_left]
  · intro entry hentry rest
    fin_cases hentry <;> rfl

theorem binary_announces : binary.Announces .binary := by
  constructor
  · intro n hn
    cases hn
  · intro entry hentry rest
    fin_cases hentry <;> rfl

theorem array_announces : array.Announces .array := by
  constructor
  · intro n hn rest
    change n < 16 at hn
    have hbyte : (UInt8.ofNat (0x90 + n)).toNat = 0x90 + n := toNat_ofNat_of_lt (by omega)
    simp only [array, takeHeader, hbyte]
    rw [if_neg (by omega), if_neg (by omega), if_pos (by omega), Nat.add_sub_cancel_left]
  · intro entry hentry rest
    fin_cases hentry <;> rfl

theorem map_announces : map.Announces .map := by
  constructor
  · intro n hn rest
    change n < 16 at hn
    have hbyte : (UInt8.ofNat (0x80 + n)).toNat = 0x80 + n := toNat_ofNat_of_lt (by omega)
    simp only [map, takeHeader, hbyte]
    rw [if_neg (by omega), if_pos (by omega), Nat.add_sub_cancel_left]
  · intro entry hentry rest
    fin_cases hentry <;> rfl

theorem unsigned_announces : unsigned.Announces fun n => .whole (.unsigned n) := by
  constructor
  · intro n hn rest
    change n < 0x80 at hn
    have hbyte : (UInt8.ofNat (0 + n)).toNat = n := by
      rw [Nat.zero_add]
      exact toNat_ofNat_of_lt (by omega)
    simp only [unsigned, takeHeader, hbyte]
    rw [if_pos hn]
  · intro entry hentry rest
    fin_cases hentry <;> rfl

end CountFormat

/-! ## Signed numbers -/

/-- The markers of signed numbers, with the number of bytes behind them. -/
def signedMarkers : List (UInt8 × ℕ) := [(0xD0, 1), (0xD1, 2), (0xD2, 4), (0xD3, 8)]

/-- A number within the bounds of a width is read back from its two's complement. -/
theorem asSigned_emod {width : ℕ} {n : ℤ} (hlow : -((256 ^ width / 2 : ℕ) : ℤ) ≤ n)
    (hhigh : n < (256 ^ width / 2 : ℕ)) : asSigned width (n % (256 ^ width : ℕ)).toNat = n := by
  have hbound : Nat.pow 256 width = 256 ^ width := rfl
  simp only [asSigned, hbound]
  generalize 256 ^ width = bound at hlow hhigh ⊢
  rcases Int.lt_or_le n 0 with hneg | hpos
  · have hmod : n % (bound : ℤ) = n + bound := by
      rw [← Int.add_emod_right, Int.emod_eq_of_lt (by omega) (by omega)]
    rw [hmod, if_neg (by omega)]
    omega
  · rw [Int.emod_eq_of_lt hpos (by omega), if_pos (by omega)]
    omega

theorem toNat_emod_lt (width : ℕ) (n : ℤ) : (n % (256 ^ width : ℕ)).toNat < 256 ^ width := by
  have hbound : 0 < 256 ^ width := Nat.pow_pos (by decide)
  have hlt := Int.emod_lt_of_pos n (Int.natCast_pos.mpr hbound)
  omega

theorem takeHeader_signed {marker : UInt8} {width : ℕ} {n : ℤ}
    (hmarker : (marker, width) ∈ signedMarkers) (hlow : -((256 ^ width / 2 : ℕ) : ℤ) ≤ n)
    (hhigh : n < (256 ^ width / 2 : ℕ)) (rest : List UInt8) :
    takeHeader (marker :: toBigEndian width (n % (256 ^ width : ℕ)).toNat ++ rest) =
      some (.whole (.signed n), rest) := by
  have hheader : takeHeader (marker :: (toBigEndian width (n % (256 ^ width : ℕ)).toNat ++ rest)) =
      (takeNumber width (toBigEndian width (n % (256 ^ width : ℕ)).toNat ++ rest)).map
        fun (n, rest) => (.whole (.signed (asSigned width n)), rest) := by
    fin_cases hmarker <;> rfl
  have hsigned := asSigned_emod hlow hhigh
  rw [List.cons_append, hheader, takeNumber_append (toNat_emod_lt width n)]
  simp only [Option.map_some, hsigned]

theorem takeHeader_lowSigned {n : ℤ} (hlow : -32 ≤ n) (hhigh : n < 0) (rest : List UInt8) :
    takeHeader (UInt8.ofNat (n % 256).toNat :: rest) = some (.whole (.signed n), rest) := by
  have hbyte : (UInt8.ofNat (n % 256).toNat).toNat = (n % 256).toNat :=
    toNat_ofNat_of_lt (by omega)
  have hsigned : asSigned 1 (n % 256).toNat = n :=
    @asSigned_emod 1 n (by omega) (by omega)
  simp only [takeHeader, hbyte]
  rw [if_neg (by omega), if_neg (by omega), if_neg (by omega), if_neg (by omega),
    if_pos (by omega), hsigned]

/-! ## Values -/

/-- Four bytes can hold the size of the text. -/
def TextFits (s : String) : Prop := (Text.toBytes s).length < 2 ^ 32

instance (s : String) : Decidable (TextFits s) := inferInstanceAs (Decidable (_ < _))

/-- Four bytes can hold the size of the list and of each of its texts. -/
def TextsFit (items : List String) : Prop :=
  items.length < 2 ^ 32 ∧ ∀ item ∈ items, TextFits item

instance (items : List String) : Decidable (TextsFit items) :=
  inferInstanceAs (Decidable (_ ∧ _))

/-- The value of a text. -/
def Value.ofText (s : String) : Value := .text (Text.toBytes s)

/-- The value of a list of texts. -/
def Value.ofTexts (items : List String) : Value := .array (items.map ofText)

/-- The bytes are read as the value, whatever follows them. -/
def Reads (depth : ℕ) (bytes : List UInt8) (value : Value) : Prop :=
  ∀ rest, takeValue depth (bytes ++ rest) = some (value, rest)

/-! ## Forms of values -/

/-- The bytes are a key and its value, one after the other. -/
def PairForm (form : Value → List UInt8 → Prop) (entry : Value × Value) (bytes : List UInt8) :
    Prop :=
  ∃ key value, form entry.1 key ∧ form entry.2 value ∧ bytes = key ++ value

/-- The bytes are one of the ways to write the value.  The forms of the values in a container are
given, if one more container may be nested.  Types that an application defines have no form here. -/
inductive FormWithin (nested : Option (Value → List UInt8 → Prop)) : Value → List UInt8 → Prop
  | nil : FormWithin nested .nil [0xC0]
  | bool (value : Bool) : FormWithin nested (.bool value) [if value then 0xC3 else 0xC2]
  | unsigned {n : ℕ} {bytes : List UInt8} (hnumber : CountFormat.unsigned.Writes n bytes) :
      FormWithin nested (.unsigned n) bytes
  | lowSigned {n : ℤ} (hlow : -32 ≤ n) (hhigh : n < 0) :
      FormWithin nested (.signed n) [UInt8.ofNat (n % 256).toNat]
  | signed {marker : UInt8} {width : ℕ} {n : ℤ} (hmarker : (marker, width) ∈ signedMarkers)
      (hlow : -((256 ^ width / 2 : ℕ) : ℤ) ≤ n) (hhigh : n < (256 ^ width / 2 : ℕ)) :
      FormWithin nested (.signed n) (marker :: toBigEndian width (n % (256 ^ width : ℕ)).toNat)
  | single {bytes : List UInt8} (hsize : bytes.length = 4) :
      FormWithin nested (.float bytes) (0xCA :: bytes)
  | double {bytes : List UInt8} (hsize : bytes.length = 8) :
      FormWithin nested (.float bytes) (0xCB :: bytes)
  | text {s : String} {head : List UInt8}
      (hhead : CountFormat.text.Writes (Text.toBytes s).length head) :
      FormWithin nested (.ofText s) (head ++ Text.toBytes s)
  | binary {bytes head : List UInt8} (hhead : CountFormat.binary.Writes bytes.length head) :
      FormWithin nested (.binary bytes) (head ++ bytes)
  | array {form : Value → List UInt8 → Prop} {items : List Value} {head : List UInt8}
      {parts : List (List UInt8)} (hnested : nested = some form)
      (hhead : CountFormat.array.Writes items.length head)
      (hitems : List.Forall₂ form items parts) :
      FormWithin nested (.array items) (head ++ parts.flatten)
  | map {form : Value → List UInt8 → Prop} {entries : List (Value × Value)} {head : List UInt8}
      {parts : List (List UInt8)} (hnested : nested = some form)
      (hhead : CountFormat.map.Writes entries.length head)
      (hentries : List.Forall₂ (PairForm form) entries parts) :
      FormWithin nested (.map entries) (head ++ parts.flatten)

/-- The bytes are one of the ways to write the value, in which no more than so many containers are
nested. -/
def Form : ℕ → Value → List UInt8 → Prop
  | 0 => FormWithin none
  | depth + 1 => FormWithin (some (Form depth))

/-- Things that are each read back, whatever follows them, are read back in a row. -/
theorem takeMany_flatten {α : Type} {take : List UInt8 → Option (α × List UInt8)}
    {things : List α} {parts : List (List UInt8)}
    (hparts : List.Forall₂ (fun thing part => ∀ rest, take (part ++ rest) = some (thing, rest))
      things parts) (rest : List UInt8) :
    takeMany take things.length (parts.flatten ++ rest) = some (things, rest) := by
  induction hparts with
  | nil => rfl
  | cons hfirst _ ih => simp [takeMany, hfirst, ih]

/-- Values are read back in whichever way they are written. -/
def ReadBack (form : Value → List UInt8 → Prop)
    (take : List UInt8 → Option (Value × List UInt8)) : Prop :=
  ∀ value bytes, form value bytes → ∀ rest, take (bytes ++ rest) = some (value, rest)

theorem ReadBack.takePair {form : Value → List UInt8 → Prop}
    {take : List UInt8 → Option (Value × List UInt8)} (hback : ReadBack form take)
    (entry : Value × Value) (bytes : List UInt8) (hpair : PairForm form entry bytes)
    (rest : List UInt8) : takePair take (bytes ++ rest) = some (entry, rest) := by
  obtain ⟨key, value, hkey, hvalue, rfl⟩ := hpair
  simp [MessagePack.takePair, hback _ _ hkey, hback _ _ hvalue]

/-- A value is read in whichever way it is written, if the values in it are. -/
theorem FormWithin.takeBody {nested : Option (Value → List UInt8 → Prop)}
    {take : Option (List UInt8 → Option (Value × List UInt8))}
    (hnested : Option.Rel ReadBack nested take) {value : Value} {bytes : List UInt8}
    (hform : FormWithin nested value bytes) (rest : List UInt8) :
    ∃ header left, takeHeader (bytes ++ rest) = some (header, left) ∧
      MessagePack.takeBody take header left = some (value, rest) := by
  cases hform with
  | nil => exact ⟨_, _, rfl, rfl⟩
  | bool flag => cases flag <;> exact ⟨_, _, rfl, rfl⟩
  | unsigned hnumber =>
      exact ⟨_, _, CountFormat.unsigned_announces.takeHeader_append hnumber rest, rfl⟩
  | lowSigned hlow hhigh => exact ⟨_, _, takeHeader_lowSigned hlow hhigh rest, rfl⟩
  | signed hmarker hlow hhigh => exact ⟨_, _, takeHeader_signed hmarker hlow hhigh rest, rfl⟩
  | @single chunk hsize =>
      refine ⟨.float 4, chunk ++ rest, rfl, ?_⟩
      rw [MessagePack.takeBody, ← hsize, takeChunk_append, Option.map_some]
  | @double chunk hsize =>
      refine ⟨.float 8, chunk ++ rest, rfl, ?_⟩
      rw [MessagePack.takeBody, ← hsize, takeChunk_append, Option.map_some]
  | text hhead =>
      refine ⟨_, _, CountFormat.text_announces.takeHeader_body hhead _ rest, ?_⟩
      rw [MessagePack.takeBody, takeChunk_append, Option.map_some, Value.ofText]
  | binary hhead =>
      refine ⟨_, _, CountFormat.binary_announces.takeHeader_body hhead _ rest, ?_⟩
      rw [MessagePack.takeBody, takeChunk_append, Option.map_some]
  | array hsome hhead hitems =>
      subst hsome
      obtain ⟨hback⟩ := hnested
      have hmany := takeMany_flatten (hitems.imp hback) rest
      refine ⟨_, _, CountFormat.array_announces.takeHeader_body hhead _ rest, ?_⟩
      simp [MessagePack.takeBody, hmany]
  | map hsome hhead hentries =>
      subst hsome
      obtain ⟨hback⟩ := hnested
      have hmany := takeMany_flatten (hentries.imp hback.takePair) rest
      refine ⟨_, _, CountFormat.map_announces.takeHeader_body hhead _ rest, ?_⟩
      simp [MessagePack.takeBody, hmany]

/-- In whichever way a value is written, it is read back. -/
theorem Form.reads {depth : ℕ} {value : Value} {bytes : List UInt8}
    (hform : Form depth value bytes) : Reads depth bytes value := by
  induction depth generalizing value bytes with
  | zero =>
      intro rest
      obtain ⟨header, left, hheader, hbody⟩ := FormWithin.takeBody .none hform rest
      simp [takeValue, hheader, hbody]
  | succ depth ih =>
      intro rest
      have hback : ReadBack (Form depth) (takeValue depth) := fun value bytes hvalue => ih hvalue
      obtain ⟨header, left, hheader, hbody⟩ := FormWithin.takeBody (.some hback) hform rest
      simp [takeValue, hheader, hbody]

/-! ## What is written -/

theorem writes_textHeader {size : ℕ} (hsize : size < 2 ^ 32) :
    CountFormat.text.Writes size (textHeader size) := by
  unfold textHeader
  split
  · next hfixed => exact .fixed hfixed
  · split
    · exact .wide (by decide) (by omega)
    · split
      · exact .wide (by decide) (by omega)
      · exact .wide (by decide) (by omega)

theorem writes_arrayHeader {size : ℕ} (hsize : size < 2 ^ 32) :
    CountFormat.array.Writes size (arrayHeader size) := by
  unfold arrayHeader
  split
  · next hfixed => exact .fixed hfixed
  · split
    · exact .wide (by decide) (by omega)
    · exact .wide (by decide) (by omega)

theorem writes_mapHeader {size : ℕ} (hsize : size < 2 ^ 32) :
    CountFormat.map.Writes size (mapHeader size) := by
  unfold mapHeader
  split
  · next hfixed => exact .fixed hfixed
  · split
    · exact .wide (by decide) (by omega)
    · exact .wide (by decide) (by omega)

theorem form_writeText {s : String} (hfits : TextFits s) (depth : ℕ) :
    Form depth (.ofText s) (writeText s) := by
  cases depth with
  | zero => exact .text (writes_textHeader hfits)
  | succ depth => exact .text (writes_textHeader hfits)

theorem form_writeTexts {items : List String} (hfits : TextsFit items) (depth : ℕ) :
    Form (depth + 1) (.ofTexts items) (writeTexts items) := by
  have hhead : CountFormat.array.Writes (items.map Value.ofText).length
      (arrayHeader items.length) := by
    rw [List.length_map]
    exact writes_arrayHeader hfits.1
  apply FormWithin.array rfl hhead
  rw [List.forall₂_map_left_iff, List.forall₂_map_right_iff, List.forall₂_same]
  intro item hitem
  exact form_writeText (hfits.2 item hitem) depth

/-- A map is written when the values of its keys are. -/
theorem form_writeMap {α : Type} (key : α → String) (bytes : α → List UInt8)
    (value : α → Value) (entries : List α) (hsize : entries.length < 2 ^ 32)
    (hkeys : ∀ entry ∈ entries, TextFits (key entry)) {depth : ℕ}
    (hvalues : ∀ entry ∈ entries, Form depth (value entry) (bytes entry)) :
    Form (depth + 1) (.map (entries.map fun entry => (.ofText (key entry), value entry)))
      (writeMap (entries.map fun entry => (key entry, bytes entry))) := by
  have hhead : CountFormat.map.Writes
      (entries.map fun entry => (Value.ofText (key entry), value entry)).length
      (mapHeader (entries.map fun entry => (key entry, bytes entry)).length) := by
    rw [List.length_map, List.length_map]
    exact writes_mapHeader hsize
  apply FormWithin.map rfl hhead
  rw [List.forall₂_map_left_iff, List.forall₂_map_right_iff, List.forall₂_map_right_iff,
    List.forall₂_same]
  intro entry hentry
  exact ⟨_, _, form_writeText (hkeys entry hentry) depth, hvalues entry hentry, rfl⟩

end TextAdventure.MessagePack
