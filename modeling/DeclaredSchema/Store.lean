import DeclaredSchema.Schema.Attribute

/-!
# Stores

What the program asks of a store, as transitions of the store's state. Every call answers with a
result or an error of the store's own type and leaves a new state behind.
-/

namespace DeclaredSchema

structure SchemaStore (σ ε : Type) where
  /-- All collections with their attributes. -/
  list : σ → Except ε Snapshot × σ
  /-- Creates an empty collection and answers with its id. -/
  createCollection : String → σ → Except ε String × σ
  createAttribute : String → ConcreteAttribute → σ → Except ε Unit × σ
  /-- The attribute is already merged with what the store holds. -/
  updateAttribute : String → ConcreteAttribute → σ → Except ε Unit × σ

end DeclaredSchema
