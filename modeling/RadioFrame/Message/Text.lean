import RadioFrame.Message
import RadioFrame.Schema.Text

/-!
The text form of messages and of what they are.

A message is an object of one member, named for the domain, that holds an object of one member,
named for the kind, that holds the fields. A message type is an object of one member, named for the
domain, that holds the name of the kind.
-/

namespace RadioFrame

open Json (Reader)

/-- A domain as text. -/
def Domain.toJson (d : Domain) : Json.Value := .text d.name

/-- Reads a domain. -/
def Domain.reader : Reader Domain :=
  Json.Reader.variant Domain.name Domain.all fun i => .nothing Domain.all[i]

/-- A kind as text. -/
def Kind.toJson {d : Domain} (k : Kind d) : Json.Value := .text k.name

/-- Reads a kind of a domain. -/
def Kind.reader (d : Domain) : Reader (Kind d) :=
  Json.Reader.variant Shape.name d.shapes fun k => .nothing k

/-- A message type as an object. -/
def MessageType.toJson (t : MessageType) : Json.Value :=
  .tagged t.domain.name (Kind.toJson t.kind)

/-- Reads a message type. -/
def MessageType.reader : Reader MessageType :=
  Json.Reader.variant Domain.name Domain.all fun i =>
    .value ((Kind.reader Domain.all[i]).andThen fun k => .ok ⟨Domain.all[i], k⟩)

namespace Message

/-- A message as an object. -/
def toJson (m : Message) : Json.Value :=
  .tagged m.type.domain.name (.tagged m.type.kindName m.body.toJson)

/-- Reads a message of a domain. -/
def readerIn (d : Domain) : Reader Message :=
  Json.Reader.variant Shape.name d.shapes fun k =>
    .value ((Body.reader (Kind.shape k)).andThen fun body => .ok ⟨⟨d, k⟩, body⟩)

/-- Reads a message. -/
def reader : Reader Message :=
  Json.Reader.variant Domain.name Domain.all fun i => .value (readerIn Domain.all[i])

/-- A message as text. -/
def render (layout : Json.Layout) (m : Message) : String := m.toJson.render layout

/-- The message that a text spells. -/
def ofText (s : String) : Except Json.Fault Message := reader.run s

end Message

end RadioFrame
