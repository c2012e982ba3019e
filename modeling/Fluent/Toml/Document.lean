import Fluent.Toml.Statement

/-! The document that TOML statements build up.

A key may be defined once. A table that was only passed through on the way to another one may
still be defined itself, and a written array may be replaced. -/

set_option autoImplicit false

namespace Fluent.Toml

inductive Value where
  | string (text : String)
  | atom
  | array (elements : List Value)
  | table (entries : List (String × Value))
  /-- The tables under one repeated header; statements go to the latest one. -/
  | tables (earlier : List (List (String × Value))) (latest : List (String × Value))

abbrev Table := List (String × Value)

def Value.isArray : Value → Bool
  | .array _ => true
  | _ => false

namespace Table

/-- Give a key a value, in its old place if it has one. -/
def put (table : Table) (key : String) (value : Value) : Table :=
  if (table.lookup key).isSome then
    table.map fun (other, old) => (other, if other = key then value else old)
  else table ++ [(key, value)]

/-- The value that a path leads to, by way of tables and the latest of several tables. -/
def find? : Table → Key → Option Value
  | _, [] => none
  | table, [key] => table.lookup key
  | table, key :: path =>
    match table.lookup key with
    | some (.table inner) => find? inner path
    | some (.tables _ latest) => find? latest path
    | _ => none

/-- Change the table that a path leads to. Tables that are missing on the way are made; a
value that is no table ends the way. -/
def modify (change : Table → Option Table) : Key → Table → Option Table
  | [], table => change table
  | key :: path, table =>
    match table.lookup key with
    | none => (modify change path []).map fun inner => table.put key (.table inner)
    | some (.table inner) => (modify change path inner).map fun inner => table.put key (.table inner)
    | some (.tables earlier latest) =>
      (modify change path latest).map fun latest => table.put key (.tables earlier latest)
    | some _ => none

/-- The paths along a way at which there is nothing; `taken` is the way so far, backwards. -/
def missing (taken : Key) : Table → Key → List Key
  | _, [] => []
  | table, part :: parts =>
    match table.lookup part with
    | some (.table inner) => missing (part :: taken) inner parts
    | some (.tables _ latest) => missing (part :: taken) latest parts
    | some _ => missing (part :: taken) [] parts
    | none => (part :: taken).reverse :: missing (part :: taken) [] parts

end Table

structure Document where
  root : Table
  /-- Paths of tables that were passed through and not defined. -/
  implicit : List Key
  /-- Paths that were last given a written array. -/
  arrays : List Key
  /-- All headers and assigned keys in the order of the text. -/
  keys : List Key

namespace Document

def empty : Document := { root := [], implicit := [], arrays := [], keys := [] }

def markImplicit (document : Document) (path : Key) : Document :=
  { document with implicit := path :: document.implicit }

def unmarkImplicit (document : Document) (path : Key) : Document :=
  { document with implicit := document.implicit.filter (· ≠ path) }

def record (document : Document) (key : Key) : Document :=
  { document with keys := document.keys ++ [key] }

def noteArray (document : Document) (path : Key) (isArray : Bool) : Document :=
  { document with
    arrays := if isArray then path :: document.arrays else document.arrays.filter (· ≠ path) }

/-- The path under which the sort of a value is noted. An empty key does not count, except at
the top. -/
def notePath (context : Key) (key : String) : Key :=
  if key ≠ "" then context ++ [key] else if context = [] then [""] else context

def insert (document : Document) (context : Key) (key : String) (value : Value) : Option Document :=
  (document.root.modify (fun table => some (table.put key value)) context).map fun root =>
    { document with root }

def define (document : Document) (context : Key) (key : String) (value : Value) : Option Document :=
  let path := context ++ [key]
  if (document.root.find? path).isNone then document.insert context key value
  else if document.arrays.contains path then
    (document.unmarkImplicit path).insert context key value
  else if document.implicit.contains path then some (document.unmarkImplicit path)
  else none

/-- Open the table at `context` for a key: missing tables are made, and marked. -/
def pass (document : Document) (context : Key) : Option Document :=
  (document.root.modify some context).map fun root =>
    { document with root, implicit := document.root.missing [] context ++ document.implicit }

def openTable (document : Document) (context : Key) (key : String) : Option Document :=
  (document.pass context).bind fun document => document.define context key (.table [])

/-- Open one more of several tables with one path. -/
def openNext (document : Document) (context : Key) (key : String) : Option Document :=
  (document.pass context).bind fun document =>
    match document.root.find? (context ++ [key]) with
    | none => document.insert context key (.tables [] [])
    | some (.tables earlier latest) =>
      document.insert context key (.tables (earlier ++ [latest]) [])
    | some _ => none

/-- Open the tables that the parts of a dotted key pass through. -/
def enter (document : Document) (context : Key) : Key → Option (Document × Key)
  | [] => some (document, context)
  | part :: parts =>
    ((document.markImplicit (context ++ [part])).openTable context part).bind fun document =>
      document.enter (context ++ [part]) parts

mutual

/-- Evaluate a value that is to be given to `key` at `context`. The tables of an array are also
opened in the document, so that their keys cannot be given twice. -/
def evaluate (document : Document) (context : Key) (key : String) (inArray : Bool) :
    Expr → Option (Value × Document)
  | .string text => some (.string text, document)
  | .atom => some (.atom, document)
  | .array elements =>
    (evaluateAll (document.noteArray (notePath context key) true) context key elements).map
      fun (values, document) => (.array values, document)
  | .inlineTable entries =>
    let document := document.markImplicit (context ++ [key])
    (if inArray then document.openNext context key else document.openTable context key).bind
      fun document => (assignAll document (context ++ [key]) [] entries).map
        fun (entries, document) => (.table entries, document)

def evaluateAll (document : Document) (context : Key) (key : String) :
    List Expr → Option (List Value × Document)
  | [] => some ([], document)
  | expr :: exprs =>
    (evaluate document context key true expr).bind fun (value, document) =>
      (evaluateAll document context key exprs).map fun (values, document) =>
        (value :: values, document)

/-- Carry out the assignments of an inline table. Its value has the last parts of their keys. -/
def assignAll (document : Document) (context : Key) (entries : Table) :
    List (Key × Expr) → Option (Table × Document)
  | [] => some (entries, document)
  | (path, expr) :: rest =>
    match path.getLast? with
    | none => none
    | some key =>
      (document.enter context path.dropLast).bind fun (document, inner) =>
        (evaluate (document.record (inner ++ [key])) inner key false expr).bind
          fun (value, document) =>
            (document.define inner key value).bind fun document =>
              assignAll (document.noteArray (notePath inner key) value.isArray) context
                (entries.put key value) rest

end

/-- Carry out a statement. A header also gives the table that assignments go to. -/
def apply (document : Document) (context : Key) : Statement → Option (Document × Key)
  | .table path =>
    path.getLast?.bind fun key => (document.openTable path.dropLast key).map fun document =>
      ((document.noteArray path false).record path, path)
  | .arrayTable path =>
    path.getLast?.bind fun key => (document.openNext path.dropLast key).map fun document =>
      ((document.noteArray path false).record path, path)
  | .assign path expr =>
    (document.assignAll context [] [(path, expr)]).map fun (_, document) => (document, context)

def applyAll (document : Document) (context : Key) : List Statement → Option Document
  | [] => some document
  | statement :: statements =>
    (document.apply context statement).bind fun (document, context) =>
      document.applyAll context statements

def read? (text : String) : Option Document :=
  (statements? text).bind (empty.applyAll [])

end Document

end Fluent.Toml
