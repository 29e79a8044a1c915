import LinkedSelect.Document
import LinkedSelect.Event

/-!
# Pages

A `Page` is a document and, if one could be attached, a session over its selects. Attaching again drops the waiting
calls and builds a new form from the document, but requests and calls go on being counted.
-/

namespace LinkedSelect

/-- What runs on a page: a session, or nothing but the counts. -/
inductive Binding (σ : Type)
  | detached (traffic : Traffic σ)
  | attached (session : Session σ)

namespace Binding

variable {σ : Type}

/-- What has gone over the wire. -/
def traffic : Binding σ → Traffic σ
  | .detached t => t
  | .attached s => s.toTraffic

/-- The session, if there is one. -/
def session? : Binding σ → Option (Session σ)
  | .detached _ => none
  | .attached s => some s

/-- Binds a form, or nothing. -/
def ofForm (traffic : Traffic σ) : Option Form → Binding σ
  | none => .detached traffic
  | some form => .attached { traffic with form }

end Binding

/-- A document and what runs on it. -/
structure Page (σ : Type) where
  document : Document
  binding : Binding σ

namespace Page

variable {σ : Type}

/-- A page whose form is built from the document. -/
def ofDocument (document : Document) (source : σ) : Page σ :=
  { document, binding := .ofForm { source := source } document.attach }

/-- A page with a form of its own. -/
def ofForm (document : Document) (form : Form) (source : σ) : Page σ :=
  { document, binding := .ofForm { source := source } (some form) }

/-- Drops the waiting calls and builds a new form from the document. -/
def attach (p : Page σ) : Page σ :=
  { p with binding := .ofForm p.binding.traffic p.document.attach }

/-- Lets the session handle an event; nothing happens on a page without one. Tells whether a call was started in the
gap. -/
def handle (src : Source σ) (p : Page σ) (e : Event) : Page σ × Bool :=
  match p.binding with
  | .detached _ => (p, false)
  | .attached s => ({ p with binding := .attached (s.handle src e).1 }, (s.handle src e).2)

/-- Writes the selects of the form back into the document. -/
def sync (p : Page σ) : Page σ :=
  match p.binding with
  | .detached _ => p
  | .attached s => { p with document := p.document.sync s.form }

/-- Adds a select to the document. -/
def insert (p : Page σ) (s : Select) : Page σ :=
  { p with document := p.document.insert s }

end Page

end LinkedSelect
