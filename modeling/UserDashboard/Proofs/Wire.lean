/-
This file proves that the data of the service comes back from its text as it was.

A kind of data has a written form, which may be missing, and a reader. Every value that can be
written is read as it was written, field by field: a field that is left out when there is nothing
to write is read as nothing. What the reader accepts beyond what is written (other names of a
field, null for an empty title, fields that are missing, records in the form of an array) is brought
into the written form by reading and writing once.
-/

import UserDashboard.Dashboard.Snapshot
import UserDashboard.Proofs.Credential.Token
import UserDashboard.Proofs.Json.Record
import UserDashboard.Proofs.Time.Rfc3339

namespace UserDashboard

open Catalog Credential Dashboard Json Number Time

/-! ### Written forms -/

/-- How a kind of data is written as JSON and read from it. -/
structure Codec (α : Type) where
  encode? : α → Option Json
  decode? : Json → Option α

namespace Codec

variable {α : Type} {codec : Codec α}

/-- Writes a value as text. -/
def write? (codec : Codec α) (value : α) : Option String :=
  (codec.encode? value).map Json.render

/-- Reads a value from text. -/
def read? (codec : Codec α) (text : String) : Option α :=
  (Json.parse? text).bind codec.decode?

/-- Whether a value has a text, and this text is read as the value. -/
def Returns (codec : Codec α) (value : α) : Prop :=
  ∃ text, codec.write? value = some text ∧ codec.read? text = some value

/-- Whether every value that can be written returns from its text, and so does whatever was read,
from the text that is written for it. What is assumed of the numbers in a value is assumed in both
cases. -/
def Keeps (codec : Codec α) (exact writable : α → Prop) : Prop :=
  (∀ value, exact value → writable value → codec.Returns value) ∧
    ∀ text value, codec.read? text = some value → exact value → codec.Returns value

/-- What is to be shown of the JSON that is written for a value. -/
structure Form (codec : Codec α) (value : α) (json : Json) : Prop where
  written : codec.encode? value = some json
  legible : json.Legible
  read : codec.decode? json = some value

theorem Form.returns {value : α} {json : Json} (form : codec.Form value json) :
    codec.Returns value := by
  refine ⟨json.render, by rw [write?, form.written]; rfl, ?_⟩
  rw [Codec.read?, Json.render, parse?_print form.legible]
  exact form.read

/-- It is enough that what is read can be written. -/
theorem keeps_of_form {exact writable : α → Prop}
    (form : ∀ value, exact value → writable value → ∃ json, codec.Form value json)
    (accepted : ∀ json value, codec.decode? json = some value → writable value) :
    codec.Keeps exact writable := by
  have returns (value : α) (held : exact value) (able : writable value) : codec.Returns value := by
    obtain ⟨json, form⟩ := form value held able
    exact form.returns
  refine ⟨returns, fun text value read held => ?_⟩
  obtain ⟨json, -, decoded⟩ := Option.bind_eq_some_iff.mp read
  exact returns value held (accepted json value decoded)

/-- The items that are written for a list of values are read as this list. -/
theorem exists_items {values : List α} (each : ∀ value ∈ values, ∃ json, codec.Form value json) :
    ∃ items, values.mapM codec.encode? = some items ∧ (∀ item ∈ items, item.Legible) ∧
      items.mapM codec.decode? = some values := by
  induction values with
  | nil => exact ⟨[], rfl, nofun, rfl⟩
  | cons value values inductionHypothesis =>
    obtain ⟨json, form⟩ := each value List.mem_cons_self
    obtain ⟨items, written, legible, read⟩ :=
      inductionHypothesis fun other later => each other (List.mem_cons_of_mem _ later)
    refine ⟨json :: items, ?_, List.forall_mem_cons.mpr ⟨form.legible, legible⟩, ?_⟩
    · rw [List.mapM_cons, form.written, written]
      rfl
    · rw [List.mapM_cons, form.read, read]
      rfl

end Codec

/-! ### Identities -/

/-- The written form of identities. -/
def Identity.codec : Codec Identity :=
  ⟨fun identity => some identity.toJson, Identity.ofJson?⟩

theorem SubjectId.ofJson?_toJson (subject : SubjectId) :
    SubjectId.ofJson? subject.toJson = some subject := by
  rw [SubjectId.ofJson?, SubjectId.toJson, readInt64?_toInt, Option.map_some, Int64.ofInt_toInt]

theorem Identity.legible_toJson (identity : Identity) : identity.toJson.Legible := by
  refine .object ?_
  simp only [List.forall_mem_cons]
  exact ⟨legible_int64 _, .string _, .string _, nofun⟩

theorem Identity.ofJson?_toJson (identity : Identity) :
    Identity.ofJson? identity.toJson = some identity := by
  have distinct : Distinct ["userId", "email", "nickname"] := ⟨by decide, by decide⟩
  obtain ⟨record, read, value⟩ :=
    record?_object distinct identity.toJson rfl (List.Sublist.refl _)
  have subject := Record.required_of_value? (value "userId") identity.subject.ofJson?_toJson
  have text {name text : String} (held : record.value? name = some (.string text)) :
      record.required name readText? = some text :=
    Record.required_of_value? held rfl
  simp only [Identity.ofJson?, read, subject, text (value "email"), text (value "nickname"),
    Option.bind_eq_bind, Option.bind_some]

theorem Identity.exists_form (identity : Identity) :
    ∃ json, Identity.codec.Form identity json :=
  ⟨identity.toJson, rfl, identity.legible_toJson, identity.ofJson?_toJson⟩

/-- The written form of claims. -/
def Credential.Claims.codec : Codec Claims :=
  ⟨fun claims => some claims.toJson, Claims.ofJson?⟩

theorem Credential.Claims.exists_form (claims : Claims) : ∃ json, Claims.codec.Form claims json :=
  ⟨claims.toJson, rfl, claims.legible_toJson, claims.ofJson?_toJson⟩

/-! ### Statistics and listings -/

/-- Whether the text of a binary number is read as this number, with nothing left of it. -/
def Number.Binary64.Exact (value : Binary64) : Prop :=
  number? (value.jsonText.map some) = some (.real value, [])

namespace Catalog

/-- The written form of statistics. -/
def Statistics.codec : Codec Statistics :=
  ⟨fun statistics => some statistics.toJson, Statistics.ofJson?⟩

/-- The written form of listings. -/
def Listing.codec : Codec Listing :=
  ⟨fun listing => some listing.toJson, Listing.ofJson?⟩

/-- Whether the amounts are numbers whose text is read as themselves. -/
def Statistics.Exact (statistics : Statistics) : Prop :=
  statistics.salesAmount.Exact ∧ statistics.purchaseAmount.Exact

/-- Whether the price, if there is one, is a number whose text is read as itself. -/
def Listing.Exact (listing : Listing) : Prop :=
  ∀ price ∈ listing.price, price.Exact

theorem Statistics.legible_toJson {statistics : Statistics} (exact : statistics.Exact) :
    statistics.toJson.Legible := by
  refine .object ?_
  simp only [List.forall_mem_cons]
  exact ⟨legible_nat64 _, legible_nat64 _, legible_nat64 _, legible_nat64 _, .real exact.1,
    .real exact.2, nofun⟩

theorem Statistics.ofJson?_toJson (statistics : Statistics) :
    Statistics.ofJson? statistics.toJson = some statistics := by
  have distinct : Distinct Statistics.fields := ⟨by decide, by decide⟩
  obtain ⟨record, read, value⟩ :=
    record?_object distinct statistics.toJson rfl (List.Sublist.refl _)
  have count {name : String} {count : UInt64}
      (held : record.value? name = some (.nat count.toNat)) :
      record.defaulted name 0 Statistics.readCount? = some count := by
    refine Record.defaulted_of_value? held ?_
    rw [Statistics.readCount?, readNat64?_toNat, Option.map_some, UInt64.ofNat_toNat]
  have amount {name : String} {amount : Binary64}
      (held : record.value? name = some (.real amount)) :
      record.defaulted name (Binary64.zero false) readReal? = some amount :=
    Record.defaulted_of_value? held rfl
  simp only [Statistics.ofJson?, read, count (value "registeredCount"),
    count (value "purchasedCount"), count (value "soldCount"), count (value "totalTransactions"),
    amount (value "totalSalesAmount"), amount (value "totalPurchaseAmount"),
    Option.bind_eq_bind, Option.bind_some]

theorem Statistics.exists_form {statistics : Statistics} (exact : statistics.Exact) :
    ∃ json, Statistics.codec.Form statistics json :=
  ⟨statistics.toJson, rfl, Statistics.legible_toJson exact, statistics.ofJson?_toJson⟩

theorem Listing.legible_toJson {listing : Listing} (exact : listing.Exact) :
    listing.toJson.Legible := by
  refine .object ?_
  simp only [List.forall_mem_append, List.forall_mem_cons]
  exact ⟨⟨⟨⟨⟨⟨legible_int64 _, .string _, nofun⟩,
    legible_member? fun price held => .real (exact price held)⟩,
    legible_member? fun _ _ => .string _⟩, legible_member? fun _ _ => legible_int64 _⟩,
    legible_member? fun _ _ => legible_int64 _⟩, legible_member? fun _ _ => .string _⟩

theorem Listing.readNumber?_numberJson (number : Int64) :
    Listing.readNumber? (Listing.numberJson number) = some number := by
  rw [Listing.readNumber?, Listing.numberJson, readInt64?_toInt, Option.map_some,
    Int64.ofInt_toInt]

/-- A listing is read as it was written, whichever of its fields are left out. -/
theorem Listing.ofJson?_toJson (listing : Listing) :
    Listing.ofJson? listing.toJson = some listing := by
  have distinct : Distinct Listing.fields := ⟨by decide, by decide⟩
  have always : ([("productId", Listing.numberJson listing.product),
      ("title", .string listing.title)].map (·.1)).Sublist ["productId", "title"] :=
    List.Sublist.refl _
  have known := names_append_member? (names_append_member? (names_append_member?
    (names_append_member? (names_append_member? always "price" .real listing.price)
      "status" .string listing.status) "sellerId" Listing.numberJson listing.seller)
      "userId" Listing.numberJson listing.owner) "createdAt" .string listing.createdAt
  obtain ⟨record, read, value⟩ := record?_object distinct listing.toJson rfl known
  simp only [valueIn?_append, valueIn?_member?, valueIn?_cons, valueIn?_nil] at value
  have product := Record.required_of_value? (value "productId")
    (Listing.readNumber?_numberJson listing.product)
  have title : record.defaulted "title" none (readNullable? readText?) =
      some (some listing.title) :=
    Record.defaulted_of_value? (value "title") rfl
  have price : record.value? "price" = listing.price.map .real := by simp [value]
  have price : record.defaulted "price" none (readNullable? readReal?) = some listing.price :=
    Record.optional_of_value? price (fun _ => nofun) fun _ => rfl
  have text {name : String} {optional : Option String}
      (held : record.value? name = optional.map .string) :
      record.defaulted name none (readNullable? readText?) = some optional :=
    Record.optional_of_value? held (fun _ => nofun) fun _ => rfl
  have number {name : String} {optional : Option Int64}
      (held : record.value? name = optional.map Listing.numberJson) :
      record.defaulted name none (readNullable? Listing.readNumber?) = some optional :=
    Record.optional_of_value? held (fun _ => nofun) Listing.readNumber?_numberJson
  have status : record.value? "status" = listing.status.map .string := by simp [value]
  have seller : record.value? "sellerId" = listing.seller.map Listing.numberJson := by simp [value]
  have owner : record.value? "userId" = listing.owner.map Listing.numberJson := by simp [value]
  have createdAt : record.value? "createdAt" = listing.createdAt.map .string := by simp [value]
  simp only [Listing.ofJson?, read, product, title, price, text status, number seller,
    number owner, text createdAt, Option.bind_eq_bind, Option.bind_some, Option.getD_some]

theorem Listing.exists_form {listing : Listing} (exact : listing.Exact) :
    ∃ json, Listing.codec.Form listing json :=
  ⟨listing.toJson, rfl, Listing.legible_toJson exact, listing.ofJson?_toJson⟩

end Catalog

/-! ### Activity and dashboards -/

theorem Time.Timestamp.exists_text {timestamp : Timestamp} (writable : timestamp.Writable) :
    ∃ text, timestamp.toJson? = some (.string text) ∧
      Timestamp.ofJson? (.string text) = some timestamp := by
  obtain ⟨text, written, returned⟩ := writable.read?_write?
  exact ⟨text, by rw [Timestamp.toJson?, written, Option.map_some], returned⟩

/-- A timestamp that was read from a field can be written. -/
theorem Time.Timestamp.writable_of_required {record : Record} {name : String}
    {timestamp : Timestamp} (read : record.required name Timestamp.ofJson? = some timestamp) :
    timestamp.Writable := by
  obtain ⟨json, -, read⟩ := Option.bind_eq_some_iff.mp read
  obtain ⟨text, -, read⟩ := Option.bind_eq_some_iff.mp read
  exact Timestamp.writable_of_read? read

namespace Dashboard

/-- The written form of records of activity. -/
def Activity.codec : Codec Activity :=
  ⟨Activity.toJson?, Activity.ofJson?⟩

/-- The written form of dashboards. -/
def Snapshot.codec : Codec Snapshot :=
  ⟨Snapshot.toJson?, Snapshot.ofJson?⟩

/-- Whether a dashboard's amounts and prices are numbers whose text is read as themselves. -/
structure Snapshot.Exact (snapshot : Snapshot) : Prop where
  statistics : snapshot.statistics.Exact
  listings : ∀ listing ∈ snapshot.listings, listing.Exact

/-- Whether all of a dashboard's timestamps can be written. -/
structure Snapshot.Writable (snapshot : Snapshot) : Prop where
  activity : ∀ activity ∈ snapshot.activity, activity.timestamp.Writable
  generatedAt : snapshot.generatedAt.Writable

/-- The JSON of a record of activity whose timestamp has a text. -/
def Activity.jsonWith (activity : Activity) (timestamp : String) : Json :=
  .object [("type", .string activity.kind), ("message", .string activity.message),
    ("productId", Listing.numberJson activity.product), ("timestamp", .string timestamp)]

theorem Activity.toJson?_eq_jsonWith {activity : Activity} {text : String}
    (written : activity.timestamp.toJson? = some (.string text)) :
    activity.toJson? = some (activity.jsonWith text) := by
  rw [Activity.toJson?, written]
  rfl

theorem Activity.exists_form {activity : Activity} (writable : activity.timestamp.Writable) :
    ∃ json, Activity.codec.Form activity json := by
  obtain ⟨text, written, returned⟩ := Timestamp.exists_text writable
  have distinct : Distinct ["type", "message", "productId", "timestamp"] :=
    ⟨by decide, by decide⟩
  obtain ⟨record, read, value⟩ :=
    record?_object distinct (activity.jsonWith text) rfl (List.Sublist.refl _)
  have shown {name text : String} (held : record.value? name = some (.string text)) :
      record.required name readText? = some text :=
    Record.required_of_value? held rfl
  have product := Record.required_of_value? (value "productId")
    (Listing.readNumber?_numberJson activity.product)
  have timestamp := Record.required_of_value? (value "timestamp") returned
  refine ⟨activity.jsonWith text, Activity.toJson?_eq_jsonWith written, .object ?_, ?_⟩
  · simp only [List.forall_mem_cons]
    exact ⟨.string _, .string _, legible_int64 _, .string _, nofun⟩
  · simp only [Activity.codec, Activity.ofJson?, read, shown (value "type"),
      shown (value "message"), product, timestamp, Option.bind_eq_bind, Option.bind_some]

theorem Snapshot.exists_form {snapshot : Snapshot} (exact : snapshot.Exact)
    (writable : snapshot.Writable) : ∃ json, Snapshot.codec.Form snapshot json := by
  obtain ⟨text, stamped, returned⟩ := Timestamp.exists_text writable.generatedAt
  obtain ⟨activity, written, legibleActivity, readActivity⟩ := Codec.exists_items
    fun activity member => Activity.exists_form (writable.activity activity member)
  obtain ⟨listings, writtenListings, legibleListings, readListings⟩ := Codec.exists_items
    fun listing member => Listing.exists_form (exact.listings listing member)
  have sameListings : snapshot.listings.map Listing.toJson = listings :=
    Option.some.inj (List.mapM_pure.symm.trans writtenListings)
  let always : List (String × Json) := [("stats", snapshot.statistics.toJson),
    ("recentListings", .array listings), ("recentActivity", .array activity),
    ("generatedAt", .string text), ("loading", .bool snapshot.loading)]
  let json : Json := .object (always ++ member? "message" .string snapshot.message)
  have distinct : Distinct ["stats", "recentListings", "recentActivity", "generatedAt", "loading",
      "message"] := ⟨by decide, by decide⟩
  have known := names_append_member? (List.Sublist.refl (always.map (·.1))) "message" .string
    snapshot.message
  obtain ⟨record, read, value⟩ := record?_object distinct json rfl known
  simp only [valueIn?_append, valueIn?_member?, always, valueIn?_cons, valueIn?_nil] at value
  have statistics := Record.required_of_value? (value "stats") snapshot.statistics.ofJson?_toJson
  have listings : record.required "recentListings" (readList? Listing.ofJson?) =
      some snapshot.listings :=
    Record.required_of_value? (value "recentListings") readListings
  have activity : record.required "recentActivity" (readList? Activity.ofJson?) =
      some snapshot.activity :=
    Record.required_of_value? (value "recentActivity") readActivity
  have generatedAt := Record.required_of_value? (value "generatedAt") returned
  have loading : record.required "loading" readBool? = some snapshot.loading :=
    Record.required_of_value? (value "loading") rfl
  have message : record.value? "message" = snapshot.message.map .string := by simp [value]
  have message : record.defaulted "message" none (readNullable? readText?) =
      some snapshot.message :=
    Record.optional_of_value? message (fun _ => nofun) fun _ => rfl
  refine ⟨json, ?_, .object ?_, ?_⟩
  · have written : snapshot.activity.mapM Activity.toJson? = some _ := written
    simp only [Snapshot.codec, Snapshot.toJson?, written, stamped, sameListings,
      Option.bind_eq_bind, Option.bind_some]
    rfl
  · simp only [always, List.forall_mem_append, List.forall_mem_cons]
    exact ⟨⟨Statistics.legible_toJson exact.statistics, .array legibleListings,
      .array legibleActivity, .string _, .bool _, nofun⟩, legible_member? fun _ _ => .string _⟩
  · simp only [Snapshot.codec, Snapshot.ofJson?, read, statistics, listings, activity, generatedAt,
      loading, message, Option.bind_eq_bind, Option.bind_some]

theorem Activity.writable_of_ofJson? {json : Json} {activity : Activity}
    (read : Activity.ofJson? json = some activity) : activity.timestamp.Writable := by
  simp only [Activity.ofJson?, Option.bind_eq_bind, Option.bind_eq_some_iff] at read
  obtain ⟨record, -, kind, -, message, -, product, -, timestamp, stamped, same⟩ := read
  cases same
  exact Timestamp.writable_of_required stamped

theorem Snapshot.writable_of_ofJson? {json : Json} {snapshot : Snapshot}
    (read : Snapshot.ofJson? json = some snapshot) : snapshot.Writable := by
  simp only [Snapshot.ofJson?, Option.bind_eq_bind, Option.bind_eq_some_iff] at read
  obtain ⟨record, -, statistics, -, listings, -, activity, told, generatedAt, stamped, loading, -,
    message, -, same⟩ := read
  cases same
  refine ⟨fun record member => ?_, Timestamp.writable_of_required stamped⟩
  obtain ⟨field, -, told⟩ := Option.bind_eq_some_iff.mp told
  obtain ⟨item, read⟩ := exists_of_readList? told member
  exact Activity.writable_of_ofJson? read

end Dashboard

/-! ### All data -/

/-- The data of the service is read as it was written: identities, claims, statistics, listings,
records of activity and dashboards, with whatever texts, numbers, lists and missing fields they
have, if the text of their binary numbers is read as these numbers and their timestamps have years
of four digits and offsets below a day. And what was read from any text is written, and read again,
as it was read the first time. -/
theorem data_returns :
    Identity.codec.Keeps (fun _ => True) (fun _ => True) ∧
      Claims.codec.Keeps (fun _ => True) (fun _ => True) ∧
      Statistics.codec.Keeps Statistics.Exact (fun _ => True) ∧
      Listing.codec.Keeps Listing.Exact (fun _ => True) ∧
      Activity.codec.Keeps (fun _ => True) (fun activity => activity.timestamp.Writable) ∧
      Snapshot.codec.Keeps Snapshot.Exact Snapshot.Writable := by
  refine ⟨?_, ?_, ?_, ?_, ?_, ?_⟩
  · exact Codec.keeps_of_form (fun identity _ _ => Identity.exists_form identity)
      fun _ _ _ => trivial
  · exact Codec.keeps_of_form (fun claims _ _ => Claims.exists_form claims) fun _ _ _ => trivial
  · exact Codec.keeps_of_form (fun _ exact _ => Statistics.exists_form exact) fun _ _ _ => trivial
  · exact Codec.keeps_of_form (fun _ exact _ => Listing.exists_form exact) fun _ _ _ => trivial
  · exact Codec.keeps_of_form (fun _ _ writable => Activity.exists_form writable)
      fun _ _ => Activity.writable_of_ofJson?
  · exact Codec.keeps_of_form (fun _ exact writable => Snapshot.exists_form exact writable)
      fun _ _ => Snapshot.writable_of_ofJson?

/-- One half, whose text has a point in it. -/
def Number.Binary64.half : Binary64 :=
  ⟨false, 4503599627370496, -53, by decide⟩

theorem Number.Binary64.exact_half : Binary64.half.Exact :=
  rfl

/-- A listing with a title of odd characters, in which most fields are left out. -/
def Catalog.Listing.odd : Listing :=
  ⟨-7, "\"Ring\" \n\u0007é", some .half, none, none, some 42, none⟩

/-- A dashboard with activity told far behind universal time, put together in the first minute of
the year zero, where universal time was still in the year before. -/
def Dashboard.Snapshot.odd : Snapshot :=
  ⟨⟨3, 0, 18446744073709551615, 4, .half, .half⟩, [.odd],
    [⟨Activity.productRegistered, "Registered", -7, ⟨1700000000123456000, -570⟩⟩],
    ⟨-62167219259999999999, 1⟩, false, some ""⟩

/-- A dashboard with odd texts, numbers and times returns, and so does a listing that was read with
another name for its number and null for its title. -/
theorem data_returns_of_odd :
    (Snapshot.odd.Exact ∧ Snapshot.odd.Writable ∧ Snapshot.codec.Returns .odd) ∧
      Listing.codec.read? "\x7b\"id\":7,\"title\":null,\"price\":0.5\x7d" =
        some ⟨7, "", some .half, none, none, none, none⟩ ∧
      Listing.Exact ⟨7, "", some .half, none, none, none, none⟩ ∧
      Listing.codec.Returns ⟨7, "", some .half, none, none, none, none⟩ := by
  have price (price : Binary64) (member : price ∈ some Binary64.half) : price.Exact :=
    Option.some.inj member ▸ Binary64.exact_half
  have exact : Snapshot.odd.Exact := by
    refine ⟨⟨Binary64.exact_half, Binary64.exact_half⟩, fun listing member => ?_⟩
    rw [List.mem_singleton.mp member]
    exact price
  have writable : Snapshot.odd.Writable := by
    refine ⟨fun activity member => ?_, ⟨by decide, by decide, by decide⟩⟩
    rw [List.mem_singleton.mp member]
    exact ⟨by decide, by decide, by decide⟩
  have read : Listing.codec.read? "\x7b\"id\":7,\"title\":null,\"price\":0.5\x7d" =
      some ⟨7, "", some .half, none, none, none, none⟩ := by decide +kernel
  obtain ⟨-, -, -, ⟨-, accepted⟩, -, returns, -⟩ := data_returns
  exact ⟨⟨exact, writable, returns _ exact writable⟩, read, price, accepted _ _ read price⟩

end UserDashboard
