/-
# Proofs.QueryString — a query string is read back as the parameters it came from

A remote inventory gets to see a query string only. Reading one splits it at every `&`, each part
at its first `=`, and decodes both sides (`Query.read?`). Encoding leaves neither sign in a name or
a value (`Percent.not_mem_encodeChars`), so the signs that are there are the ones put between them,
and what was encoded is decoded (`Percent.decode?_encodeChars`). Hence any parameters are read back
as they were (`Query.read?_cons`), and no two lists of them share a query string.

A filter is known from its parameters: `Query.get?_text` and `Query.get?_id` say what there is
under a name. So two filters that differ ask for different things.
-/
import InventorySync.Proofs.Selection

namespace InventorySync

set_option autoImplicit false

/-! ## One component -/

namespace Text.Percent

theorem hexValue?_hexDigit {n : Nat} (digit : n < 16) : hexValue? (hexDigit n) = some n := by
  have all : ∀ k : Fin 16, hexValue? (hexDigit k) = some k.val := by decide
  exact all ⟨n, digit⟩

theorem isUnreserved_hexDigit {n : Nat} (digit : n < 16) : isUnreserved (hexDigit n) = true := by
  have all : ∀ k : Fin 16, isUnreserved (hexDigit k) = true := by decide
  exact all ⟨n, digit⟩

theorem high_lt (b : UInt8) : b.toNat / 16 < 16 := by
  have small : b.toNat < 256 := b.toNat_lt
  omega

theorem low_lt (b : UInt8) : b.toNat % 16 < 16 := Nat.mod_lt _ (by decide)

/-- Encoding leaves the unreserved characters and percent signs. -/
theorem mem_encodeChars {c : Char} {s : List Char} (member : c ∈ encodeChars s) :
    isUnreserved c = true ∨ c = '%' := by
  obtain ⟨d, -, member⟩ := List.mem_flatMap.1 member
  unfold encodeChar at member
  split at member
  next kept =>
    rw [List.mem_singleton.1 member]
    exact .inl kept
  next =>
    obtain ⟨b, -, member⟩ := List.mem_flatMap.1 member
    simp only [escapedByte, List.mem_cons, List.not_mem_nil, or_false] at member
    obtain rfl | rfl | rfl := member
    · exact .inr rfl
    · exact .inl (isUnreserved_hexDigit (high_lt b))
    · exact .inl (isUnreserved_hexDigit (low_lt b))

/-- A reserved sign other than the percent sign does not occur in what is encoded. -/
theorem not_mem_encodeChars {c : Char} (reserved : isUnreserved c = false) (other : c ≠ '%')
    (s : List Char) : c ∉ encodeChars s := fun member =>
  (mem_encodeChars member).elim (fun kept => Bool.false_ne_true (reserved.symm.trans kept)) other

theorem decodeBytes_escaped (bytes : List UInt8) (rest : List Char) :
    decodeBytes (bytes.flatMap escapedByte ++ rest) = (decodeBytes rest).map (bytes ++ ·) := by
  induction bytes with
  | nil => simp
  | cons b bytes ih =>
      have number : UInt8.ofNat (b.toNat / 16 * 16 + b.toNat % 16) = b := by
        rw [Nat.div_add_mod']
        exact UInt8.ofNat_toNat
      rw [List.flatMap_cons, List.append_assoc]
      simp only [escapedByte, List.cons_append, List.nil_append, decodeBytes,
        hexValue?_hexDigit (high_lt b), hexValue?_hexDigit (low_lt b), ih]
      cases decodeBytes rest with
      | none => rfl
      | some tail => exact congrArg (some <| · :: (bytes ++ tail)) number

theorem decodeBytes_kept {c : Char} (kept : isUnreserved c = true) (rest : List Char) :
    decodeBytes (c :: rest) = (decodeBytes rest).map (String.utf8EncodeChar c ++ ·) := by
  have plain : c ≠ '%' := by
    rintro rfl
    cases kept
  rw [decodeBytes]
  · rw [if_neg plain]
  · rintro h l tail rfl
    exact absurd rfl plain

/-- What was encoded is decoded to the bytes of the text. -/
theorem decodeBytes_encodeChars (s : List Char) :
    decodeBytes (encodeChars s) = some (s.flatMap String.utf8EncodeChar) := by
  induction s with
  | nil => rfl
  | cons c s ih =>
      change decodeBytes (encodeChar c ++ encodeChars s) = _
      unfold encodeChar
      split
      next kept => simp [decodeBytes_kept kept, ih]
      next => simp [decodeBytes_escaped, ih]

theorem fromUTF8?_toArray (s : List Char) :
    String.fromUTF8? ⟨(s.flatMap String.utf8EncodeChar).toArray⟩ = some (String.ofList s) := by
  have bytes : (⟨(s.flatMap String.utf8EncodeChar).toArray⟩ : ByteArray) = s.utf8Encode :=
    ByteArray.ext List.data_toByteArray.symm
  rw [bytes, String.fromUTF8?, dif_pos ByteArray.isValidUTF8_utf8Encode]
  rfl

/-- **Decoding reads the encoding back**, whatever the text is. -/
theorem decode?_encodeChars (s : List Char) :
    decode? (String.ofList (encodeChars s)) = some (String.ofList s) := by
  simp only [decode?, String.toList_ofList, decodeBytes_encodeChars]
  exact fromUTF8?_toArray s

end Text.Percent

/-! ## A query string -/

namespace Query

open Text.Percent

/-- The parameter that a part of a query string stands for; none without an `=`. -/
def readPart? (part : List Char) : Option (String × String) :=
  match part.dropWhile (· != '=') with
  | [] => none
  | _ :: value => do
    return (← decode? (String.ofList (part.takeWhile (· != '='))), ← decode? (String.ofList value))

/-- The parameters that a query string stands for. -/
def read? (s : String) : Option (List (String × String)) := (s.toList.splitOn '&').mapM readPart?

/-- The signs that a query string is made of. -/
def IsSign (c : Char) : Prop := isUnreserved c = true ∨ c = '%' ∨ c = '=' ∨ c = '&'

theorem mem_component {c : Char} {p : String × String} (member : c ∈ component p) :
    isUnreserved c = true ∨ c = '%' ∨ c = '=' := by
  simp only [component, List.mem_append, List.mem_cons] at member
  obtain member | rfl | member := member
  · exact (mem_encodeChars member).imp_right .inl
  · exact .inr (.inr rfl)
  · exact (mem_encodeChars member).imp_right .inl

theorem separator_not_mem_component (p : String × String) : '&' ∉ component p := fun member => by
  obtain kept | same | same := mem_component member
  · exact absurd kept (by decide)
  · exact absurd same (by decide)
  · exact absurd same (by decide)

theorem joinComponents_eq (pairs : List (String × String)) :
    joinComponents pairs = ['&'].intercalate (pairs.map component) := by
  induction pairs with
  | nil => rfl
  | cons p rest ih =>
      cases rest with
      | nil => simp [joinComponents]
      | cons q rest => simp [joinComponents, ih, List.intercalate_cons_cons]

theorem isSign_of_mem_joinComponents {c : Char} {pairs : List (String × String)}
    (member : c ∈ joinComponents pairs) : IsSign c := by
  have inside {p : String × String} (member : c ∈ component p) : IsSign c :=
    (mem_component member).imp_right (Or.imp_right .inl)
  induction pairs with
  | nil => cases member
  | cons p rest ih =>
      cases rest with
      | nil => exact inside member
      | cons q rest =>
          simp only [joinComponents, List.mem_append, List.mem_cons] at member
          obtain member | rfl | member := member
          · exact inside member
          · exact .inr (.inr (.inr rfl))
          · exact ih member

/-- A part is cut where the name ends: there is no `=` in an encoded name. -/
theorem readPart?_component (p : String × String) : readPart? (component p) = some p := by
  have name : ∀ c ∈ encodeChars p.1.toList, (c != '=') = true := by
    rintro c member
    refine bne_iff_ne.2 ?_
    rintro rfl
    exact not_mem_encodeChars (by decide) (by decide) _ member
  have before : (component p).takeWhile (· != '=') = encodeChars p.1.toList := by
    rw [component, List.takeWhile_append_of_pos name]
    simp
  have after : (component p).dropWhile (· != '=') = '=' :: encodeChars p.2.toList := by
    rw [component, List.dropWhile_append_of_pos name]
    simp
  simp only [readPart?, before, after, decode?_encodeChars, String.ofList_toList]
  rfl

theorem mapM_readPart? (pairs : List (String × String)) :
    (pairs.map component).mapM readPart? = some pairs := by
  induction pairs with
  | nil => rfl
  | cons p rest ih => simp [readPart?_component, ih]

/-- **Parameters are read back as they were**, in order, if there are any. -/
theorem read?_cons (p : String × String) (rest : List (String × String)) :
    read? (queryString (p :: rest)) = some (p :: rest) := by
  have parts : (joinComponents (p :: rest)).splitOn '&' = (p :: rest).map component := by
    rw [joinComponents_eq]
    refine List.splitOn_intercalate '&' (fun part member => ?_) (by simp)
    obtain ⟨q, -, rfl⟩ := List.mem_map.1 member
    exact separator_not_mem_component q
  rw [read?, queryString, String.toList_ofList, parts, mapM_readPart?]

/-- The empty text is the query string of no parameters, and of those only. -/
theorem queryString_ne_empty (p : String × String) (rest : List (String × String)) :
    queryString (p :: rest) ≠ queryString [] := fun same => by
  have nothing : read? (queryString []) = none := by decide +kernel
  rw [← same, read?_cons] at nothing
  cases nothing

theorem queryString_inj {a b : List (String × String)} :
    queryString a = queryString b ↔ a = b := by
  refine ⟨fun same => ?_, congrArg _⟩
  cases a with
  | nil =>
      cases b with
      | nil => rfl
      | cons q b => exact absurd same.symm (queryString_ne_empty q b)
  | cons p a =>
      cases b with
      | nil => exact absurd same (queryString_ne_empty p a)
      | cons q b =>
          have read := congrArg read? same
          rw [read?_cons, read?_cons] at read
          exact Option.some.inj read

/-! ## What a filter asks for -/

theorem get?_append_singleton (q : Query) (p : String × String) (k : String) :
    (Query.mk (q.pairs ++ [p])).get? k = (q.get? k).or (if p.1 = k then some p.2 else none) := by
  simp only [get?, List.find?_append, List.find?_singleton, beq_iff_eq]
  cases List.find? (·.1 == k) q.pairs with
  | none => by_cases here : p.1 = k <;> simp [here]
  | some found => rfl

/-- What a text becomes: nothing if it is empty. -/
def givenText (value : String) : Option String := if value = "" then none else some value

/-- What an id becomes: nothing if it is zero. -/
def givenId (value : Id) : Option String := if value = 0 then none else some (toString value)

@[simp] theorem givenText_inj {v w : String} : givenText v = givenText w ↔ v = w := by
  unfold givenText
  by_cases first : v = "" <;> by_cases second : w = "" <;> simp_all [eq_comm]

@[simp] theorem givenId_inj {v w : Id} : givenId v = givenId w ↔ v = w := by
  unfold givenId
  by_cases first : v = 0 <;> by_cases second : w = 0 <;> simp_all [eq_comm, toString_id_inj]

@[simp] theorem get?_text (q : Query) (key value k : String) :
    (q.text key value).get? k = (q.get? k).or (if key = k then givenText value else none) := by
  unfold text givenText
  by_cases blank : value = ""
  · simp [blank]
  · simp [blank, get?_append_singleton]

@[simp] theorem get?_id (q : Query) (key : String) (value : Id) (k : String) :
    (q.id key value).get? k = (q.get? k).or (if key = k then givenId value else none) := by
  unfold id givenId
  by_cases blank : value = 0
  · simp [blank]
  · simp [blank, get?_append_singleton]

@[simp] theorem get?_empty (k : String) : empty.get? k = none := rfl

theorem queryString_pairs_inj {q r : Query} :
    queryString q.pairs = queryString r.pairs ↔ q = r := by
  cases q
  cases r
  rw [queryString_inj, mk.injEq]

end Query

theorem ClusterFilter.query_inj {f g : ClusterFilter} : f.query = g.query ↔ f = g := by
  refine ⟨fun same => ?_, congrArg _⟩
  have name : f.name = g.name := by simpa [query] using congrArg (·.get? "name") same
  have region : f.region = g.region := by simpa [query] using congrArg (·.get? "region") same
  have kind : f.kind = g.kind := by simpa [query] using congrArg (·.get? "type") same
  cases f
  cases g
  simp_all

theorem DeviceFilter.query_inj {f g : DeviceFilter} : f.query = g.query ↔ f = g := by
  refine ⟨fun same => ?_, congrArg _⟩
  have cluster : f.clusterId = g.clusterId := by
    simpa [query] using congrArg (·.get? "cluster_id") same
  have role : f.roleId = g.roleId := by simpa [query] using congrArg (·.get? "role_id") same
  have site : f.siteId = g.siteId := by simpa [query] using congrArg (·.get? "site_id") same
  have name : f.name = g.name := by simpa [query] using congrArg (·.get? "name") same
  cases f
  cases g
  simp_all

theorem InterfaceFilter.query_inj {f g : InterfaceFilter} : f.query = g.query ↔ f = g := by
  refine ⟨fun same => ?_, congrArg _⟩
  have device : f.deviceId = g.deviceId := by
    simpa [query] using congrArg (·.get? "device_id") same
  have lag : f.lagId = g.lagId := by simpa [query] using congrArg (·.get? "lag_id") same
  have name : f.name = g.name := by simpa [query] using congrArg (·.get? "name") same
  cases f
  cases g
  simp_all

theorem AddressFilter.query_inj {f g : AddressFilter} : f.query = g.query ↔ f = g := by
  refine ⟨fun same => ?_, congrArg _⟩
  have interface : f.interfaceId = g.interfaceId := by
    simpa [query] using congrArg (·.get? "interface_id") same
  have device : f.deviceId = g.deviceId := by
    simpa [query] using congrArg (·.get? "device_id") same
  cases f
  cases g
  simp_all

theorem NameFilter.query_inj {f g : NameFilter} : f.query = g.query ↔ f = g := by
  refine ⟨fun same => ?_, congrArg _⟩
  have name : f.name = g.name := by simpa [query] using congrArg (·.get? "name") same
  cases f
  cases g
  simp_all

namespace Query

/-- **A query string says what is asked for, and nothing else.** It is made of unreserved
characters, percent signs, `=` and `&`; it is read back as the parameters that it came from, so
there are no other parameters with the same one; and no other filter of the same kind has it. -/
theorem queryString_faithful :
    (∀ pairs, ∀ c ∈ (queryString pairs).toList, IsSign c) ∧
      (∀ p rest, read? (queryString (p :: rest)) = some (p :: rest)) ∧
      (∀ a b, queryString a = queryString b ↔ a = b) ∧
      (∀ f g : ClusterFilter, queryString f.query.pairs = queryString g.query.pairs ↔ f = g) ∧
      (∀ f g : DeviceFilter, queryString f.query.pairs = queryString g.query.pairs ↔ f = g) ∧
      (∀ f g : InterfaceFilter, queryString f.query.pairs = queryString g.query.pairs ↔ f = g) ∧
      (∀ f g : AddressFilter, queryString f.query.pairs = queryString g.query.pairs ↔ f = g) ∧
      ∀ f g : NameFilter, queryString f.query.pairs = queryString g.query.pairs ↔ f = g := by
  refine ⟨fun pairs c member => ?_, read?_cons, fun _ _ => queryString_inj,
    fun _ _ => queryString_pairs_inj.trans ClusterFilter.query_inj,
    fun _ _ => queryString_pairs_inj.trans DeviceFilter.query_inj,
    fun _ _ => queryString_pairs_inj.trans InterfaceFilter.query_inj,
    fun _ _ => queryString_pairs_inj.trans AddressFilter.query_inj,
    fun _ _ => queryString_pairs_inj.trans NameFilter.query_inj⟩
  rw [queryString, String.toList_ofList] at member
  exact isSign_of_mem_joinComponents member

/-- Signs within a name or a value are escaped, those between them are not. -/
theorem queryString_faithful_signs :
    queryString [("a&b", "=+ é"), ("", "%")] = "a%26b=%3D%2B%20%C3%A9&=%25" ∧
      '&' ∈ (queryString [("a&b", "=+ é"), ("", "%")]).toList ∧ IsSign '&' ∧
      read? "a%26b=%3D%2B%20%C3%A9&=%25" = some [("a&b", "=+ é"), ("", "%")] := by
  have text : queryString [("a&b", "=+ é"), ("", "%")] = "a%26b=%3D%2B%20%C3%A9&=%25" := by
    decide +kernel
  have there : '&' ∈ (queryString [("a&b", "=+ é"), ("", "%")]).toList := by
    rw [text]
    decide +kernel
  refine ⟨text, there, queryString_faithful.1 _ _ there, ?_⟩
  rw [← text]
  exact queryString_faithful.2.1 _ _

end Query

end InventorySync
