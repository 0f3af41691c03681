import SearchQuery.Proofs.Json.Rereading
import SearchQuery.Proofs.Query.Nesting

/-!
# Reading a dump

The dump of a query is a document again as long as the expanded query nests no deeper than a
document may.  Expansion makes a query deeper, so the dump of a deep document can be none.
-/

set_option autoImplicit false
namespace SearchQuery.Query

theorem read_eq_ok {bytes : List UInt8} {q : Query} :
    read bytes = .ok q ↔ ∃ v, Json.read bytes = .ok v ∧ decode v = .ok q := by
  unfold read
  cases document : Json.read bytes with
  | error e => simp
  | ok v => cases decoded : decode v <;> simp [decoded, Except.mapError]

theorem dump_eq_ok {q : Query} {text : String} :
    q.dump = .ok text ↔ ∃ e, q.expand = .ok e ∧ e.toJson.writePretty = text := map_eq_ok

/-- The dump of a query that was read is read again if and only if the expanded query nests to a
depth of at most 127, which is at most three levels deeper than the document. -/
theorem dump_readable {bytes : List UInt8} {q : Query} {text : String} (hread : read bytes = .ok q)
    (hdump : q.dump = .ok text) : ∃ v e, Json.read bytes = .ok v ∧ q.expand = .ok e ∧
      e.toJson.depth ≤ v.depth + 3 ∧
      ((∃ w, Json.read (bytesOf text) = .ok w) ↔ e.toJson.depth ≤ 127) := by
  obtain ⟨v, document, decoded⟩ := read_eq_ok.1 hread
  obtain ⟨e, expanded, rfl⟩ := dump_eq_ok.1 hdump
  refine ⟨v, e, document, expanded, depth_of_expand decoded expanded, ?_⟩
  exact (Json.read_writePretty_iff (toJson_isFinite e)).trans Nat.lt_succ_iff

def nestedText : Nat → Query
  | 0 => .queryString "a" none
  | n + 1 => .conjunction [nestedText n] none

def nestedClause : Nat → Query
  | 0 => .boolean none
    (some (.disjunction [.onField (.text "a" none none none none) "" none] (some 1) none)) none none
  | n + 1 => .conjunction [nestedClause n] none

theorem depth_nestedText (n : Nat) : (nestedText n).toJson.depth = 2 * n + 1 := by
  induction n with
  | zero => rfl
  | succ n ih =>
    rw [nestedText, depth_conjunction, toJsons, toJsons, Json.depthItems, Json.depthItems, ih]
    omega

theorem depth_nestedClause (n : Nat) : (nestedClause n).toJson.depth = 2 * n + 4 := by
  induction n with
  | zero => rfl
  | succ n ih =>
    rw [nestedClause, depth_conjunction, toJsons, toJsons, Json.depthItems, Json.depthItems, ih]
    omega

theorem nestedText_everywhere (n : Nat) : (nestedText n).Everywhere IsRepresentable := by
  have plain {q : Query} (h : q.boost? = none) : ∀ x ∈ q.boost?, x.isFinite = true := by
    rw [h]
    exact fun x hx => nomatch hx
  induction n with
  | zero => exact ⟨plain rfl, trivial⟩
  | succ n ih => exact ⟨⟨plain rfl, trivial⟩, ih, trivial⟩

theorem reread_nestedText (n : Nat) : (nestedText n).toJson.reread = (nestedText n).toJson := by
  induction n with
  | zero => rfl
  | succ n ih =>
    change Json.object [("conjuncts", .array [(nestedText n).toJson.reread])] = _
    rw [ih]
    rfl

theorem read_nestedText {n : Nat} (h : n ≤ 63) :
    read (bytesOf (nestedText n).toJson.writePretty) = .ok (nestedText n) := by
  have fits : (nestedText n).toJson.depth < Json.maxDepth := by
    rw [depth_nestedText]
    change 2 * n + 1 < 128
    omega
  have document := Json.read_writePretty (toJson_isFinite _) fits
  rw [reread_nestedText] at document
  have decoded := (returns_iff (nestedText n) (nestedText n)).2 ⟨rfl, nestedText_everywhere n⟩
  exact read_eq_ok.2 ⟨_, document, decoded.1⟩

theorem expand_nestedText (n : Nat) : (nestedText n).expand = .ok (nestedClause n) := by
  rw [expand_eq]
  induction n with
  | zero => with_unfolding_all rfl
  | succ n ih =>
    rw [nestedText, replaceTexts, replaceEach, ih]
    rfl

/-- In one conjunction a query string is dumped to a document. -/
theorem dump_readable_nested :
    let q := nestedText 1
    let text := (nestedClause 1).toJson.writePretty
    read (bytesOf q.toJson.writePretty) = .ok q ∧ q.dump = .ok text ∧
      ∃ w, Json.read (bytesOf text) = .ok w := by
  have hread := read_nestedText (show 1 ≤ 63 by decide)
  have hdump := dump_eq_ok.2 ⟨_, expand_nestedText 1, rfl⟩
  obtain ⟨v, e, -, expanded, -, readable⟩ := dump_readable hread hdump
  rw [expand_nestedText] at expanded
  cases expanded
  refine ⟨hread, hdump, readable.2 ?_⟩
  rw [depth_nestedClause]
  decide

/-- A query string in 63 conjunctions is read, and its dump is not. -/
theorem dump_unreadable :
    let q := nestedText 63
    let text := (nestedClause 63).toJson.writePretty
    read (bytesOf q.toJson.writePretty) = .ok q ∧ q.dump = .ok text ∧
      ¬ ∃ w, Json.read (bytesOf text) = .ok w := by
  refine ⟨read_nestedText (Nat.le_refl 63), dump_eq_ok.2 ⟨_, expand_nestedText 63, rfl⟩, ?_⟩
  rw [Json.read_writePretty_iff (toJson_isFinite _), depth_nestedClause]
  decide

end SearchQuery.Query
