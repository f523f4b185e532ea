import AnalyticsGateway.Cache.Key
import AnalyticsGateway.Digest.Sha256
import AnalyticsGateway.Proofs.Sql.Encoding

/-!
# Cache keys

A key names two records of the store, its entry and its lease. The text that is hashed for the key
of a query shows the scope of the query, so that queries for two tenants are never hashed from the
same text (`scope_eq_of_source`), and with finite numbers it shows the whole query
(`key_separation`).
-/

namespace AnalyticsGateway

/-! ## digests of texts -/

namespace Sha256

theorem toList_loop (bytes : ByteArray) (i : Nat) (read : List UInt8) :
    ByteArray.toList.loop bytes i read = read.reverse ++ bytes.data.toList.drop i := by
  fun_induction ByteArray.toList.loop bytes i read with
  | case1 i read hi ih =>
    have byte : bytes.get! i = bytes.data.toList.get ⟨i, hi⟩ := getElem!_pos bytes.data i hi
    rw [ih, List.drop_eq_getElem_cons (i := i) hi, byte, List.reverse_cons, List.append_assoc,
      List.singleton_append, List.get_eq_getElem]
  | case2 i read hi =>
    rw [List.drop_eq_nil_of_le (Nat.le_of_not_lt hi), List.append_nil]

theorem toList_toUTF8 (chars : List Char) :
    (String.ofList chars).toUTF8.toList = chars.flatMap String.utf8EncodeChar := by
  rw [String.toUTF8, String.toByteArray_ofList, List.utf8Encode, ByteArray.toList,
    toList_loop, List.toList_data_toByteArray]
  rfl

theorem toList_hexDigest (chars : List Char) :
    (hexDigest (String.ofList chars)).toList =
      (digest (chars.flatMap String.utf8EncodeChar)).flatMap hexByte := by
  rw [hexDigest, toList_toUTF8, String.toList_ofList]

end Sha256

/-! ## names of records -/

namespace CacheKey

/-- The names of records that are left to the cache. -/
def Owns (name : String) : Prop := namePrefix.toList <+: name.toList

theorem owns_entry {key : CacheKey} (h : Owns key.text) : Owns key.entry := by
  rw [Owns, entry, String.toList_append]
  exact List.IsPrefix.trans h (List.prefix_append ..)

theorem owns_lease {key : CacheKey} (h : Owns key.text) : Owns key.lease := by
  rw [Owns, lease, String.toList_append]
  exact List.IsPrefix.trans h (List.prefix_append ..)

theorem entry_ne_lease (a b : CacheKey) : a.entry ≠ b.lease := by
  intro h
  have last := congrArg (fun text : String => text.toList.getLast?) h
  have ends : ":entry".toList.getLast? = some 'y' ∧ ":lease".toList.getLast? = some 'e' := by
    decide
  simp only [entry, lease, String.toList_append, List.getLast?_append, ends.1, ends.2,
    Option.some_or] at last
  exact absurd last (by decide)

theorem entry_inj {a b : CacheKey} (h : a.entry = b.entry) : a = b := by
  have texts := congrArg String.toList h
  rw [entry, entry, String.toList_append, String.toList_append] at texts
  exact congrArg mk (String.toList_inj.1 (List.append_cancel_right texts))

end CacheKey

/-! ## what is hashed -/

namespace CacheKey

/-- Queries that are hashed from the same text are written alike. -/
theorem alike_of_source {q r : Sql.Query} (h : source q = source r) :
    Json.Alike q.toJson r.toJson :=
  (Json.alike_of_compact h).member "query" rfl rfl

theorem scope_eq_of_source {q r : Sql.Query} (h : source q = source r) : q.scope = r.scope :=
  Sql.Scope.eq_of_alike ((alike_of_source h).member "rls" rfl rfl)

theorem eq_of_source {q r : Sql.Query} (hq : q.IsFinite) (hr : r.IsFinite)
    (h : source q = source r) : q = r :=
  Sql.Query.eq_of_alike hq hr (alike_of_source h)

/-! ## keys of queries -/

theorem ofQuery_eq_error {q : Sql.Query} {e : SecurityError} :
    ofQuery q = .error e ↔ q.scope = .undecided ∧ e = .undecidedScope := by
  unfold ofQuery
  split <;> simp_all [eq_comm]

theorem ofQuery_eq_ok {q : Sql.Query} {key : CacheKey} :
    ofQuery q = .ok key ↔
      q.scope ≠ .undecided ∧ key = ⟨namePrefix ++ "v1:" ++ Sha256.hexDigest (source q)⟩ := by
  unfold ofQuery
  split <;> simp_all [eq_comm]

theorem owns_of_ofQuery {q : Sql.Query} {key : CacheKey} (h : ofQuery q = .ok key) :
    Owns key.text := by
  rw [(ofQuery_eq_ok.1 h).2, Owns, String.toList_append, String.toList_append, List.append_assoc]
  exact List.prefix_append ..

theorem digest_eq_of_key {q r : Sql.Query} {key : CacheKey} (hq : ofQuery q = .ok key)
    (hr : ofQuery r = .ok key) :
    Sha256.hexDigest (source q) = Sha256.hexDigest (source r) := by
  have texts := congrArg (fun key : CacheKey => key.text.toList)
    ((ofQuery_eq_ok.1 hq).2.symm.trans (ofQuery_eq_ok.1 hr).2)
  simp only [String.toList_append] at texts
  exact String.toList_inj.1 (List.append_cancel_left texts)

/-- Only a query whose scope is undecided has no key. As far as the digest tells apart the texts
that are hashed, two queries with finite numbers have the same key only if they are the same query,
so neither two tenants share one, nor a caller that is bypassed and one that is not. -/
theorem key_separation (q r : Sql.Query) (hq : q.IsFinite) (hr : r.IsFinite)
    (apart : Sha256.hexDigest (source q) = Sha256.hexDigest (source r) → source q = source r) :
    (∀ e, ofQuery q = .error e ↔ q.scope = .undecided ∧ e = .undecidedScope) ∧
      (q.scope ≠ .undecided → ∃ a, ofQuery q = .ok a) ∧
      ∀ a b, ofQuery q = .ok a → ofQuery r = .ok b →
        (a = b ↔ q = r) ∧
        (q.scope.tenant? ≠ r.scope.tenant? → a ≠ b) ∧
        (∀ tenant, q.scope = .bypassed tenant →
          r.scope = .enforced tenant ∨ r.scope = .unscoped tenant → a ≠ b) := by
  have same {a b : CacheKey} (ha : ofQuery q = .ok a) (hb : ofQuery r = .ok b) (h : a = b) :
      q = r := by
    subst h
    exact eq_of_source hq hr (apart (digest_eq_of_key ha hb))
  refine ⟨fun e => ofQuery_eq_error, fun decided => ⟨_, ofQuery_eq_ok.2 ⟨decided, rfl⟩⟩, ?_⟩
  intro a b ha hb
  refine ⟨⟨same ha hb, ?_⟩, ?_, ?_⟩
  · rintro rfl
    exact Except.ok.inj (ha.symm.trans hb)
  · intro tenants h
    exact tenants (congrArg (fun q => q.scope.tenant?) (same ha hb h))
  · rintro tenant bypassed confined h
    rw [← same ha hb h, bypassed] at confined
    simp at confined

namespace KeySample

/-- How many orders are above a price. -/
def largeOrders (price : Float) (scope : Sql.Scope) : Sql.Query where
  dataset := "orders"
  dialect := .postgresql
  projection := [⟨.aggregate .count none, "count"⟩]
  base := ⟨.table "orders", "o"⟩
  joins := []
  selection := some (.test (.row (.column ⟨some "o", "price"⟩)) (.compare .greater (.float price)))
  grouping := []
  having := none
  order := []
  limit := 100
  offset := none
  scope := scope

theorem largeOrders_finite {price : Float} (h : price.isFinite = true) (scope : Sql.Scope) :
    (largeOrders price scope).IsFinite := by
  intro l hl
  obtain rfl : l = .float price := by
    simpa [Sql.Query.literals, largeOrders, Sql.Condition.literals, Sql.Test.literals] using hl
  exact h

end KeySample

open KeySample in
/-- A caller that is bypassed does not share the key of one that is scoped to the same tenant. -/
theorem key_separation_bypassed :
    (largeOrders 2.5 (.enforced "acme")).IsFinite ∧
      (largeOrders 2.5 (.bypassed "acme")).IsFinite ∧
      Sha256.hexDigest (source (largeOrders 2.5 (.enforced "acme"))) ≠
        Sha256.hexDigest (source (largeOrders 2.5 (.bypassed "acme"))) ∧
      ofQuery (largeOrders 2.5 (.enforced "acme")) ≠
        ofQuery (largeOrders 2.5 (.bypassed "acme")) := by
  have finite (scope : Sql.Scope) : (largeOrders 2.5 scope).IsFinite :=
    largeOrders_finite (by decide +kernel) scope
  have apart : Sha256.hexDigest (source (largeOrders 2.5 (.enforced "acme"))) ≠
      Sha256.hexDigest (source (largeOrders 2.5 (.bypassed "acme"))) := by
    rw [Ne, ← String.toList_inj, source, source, Json.compact, Json.compact,
      Sha256.toList_hexDigest, Sha256.toList_hexDigest]
    decide +kernel
  refine ⟨finite _, finite _, apart, fun same => ?_⟩
  obtain ⟨-, present, keys⟩ := key_separation _ _ (finite (.bypassed "acme"))
    (finite (.enforced "acme")) fun h => absurd h.symm apart
  obtain ⟨key, hkey⟩ := present (by simp [largeOrders])
  exact (keys key key hkey (same.trans hkey)).2.2 "acme" rfl (.inl rfl) rfl

end CacheKey

end AnalyticsGateway
