import DecompileServer.Config.Basic
import DecompileServer.Json.Record

/-!
# Reading a configuration

A configuration is a JSON text with a section for each of its parts. Sections and their fields may
be left out, and a field that is not known is a fault.
-/
namespace DecompileServer.Config

open Json (RecordField ReadFault Reader RecordShape)

/-- The form of a section. -/
def sectionShape {σ : Type} (name : String) (fields : List (RecordField σ)) : RecordShape σ where
  name
  fields
  isClosed := true
  surplus _ := .text .malformed

/-- A field for a path that may be left open. -/
def pathField {σ : Type} (name : String) (fill : Option Path → σ → σ) : RecordField σ :=
  .of name (Reader.optional (Reader.string "path string")) fun text => fill (text.map Path.mk)

/-- A field for a text. -/
def textField {σ : Type} (name : String) (fill : String → σ → σ) : RecordField σ :=
  .of name (Reader.string "a string") fill

/-- A field for a truth value. -/
def flagField {σ : Type} (name : String) (fill : Bool → σ → σ) : RecordField σ :=
  .of name Reader.boolean fill

/-- A field for a text that changes nothing. -/
def remarkField {σ : Type} (name : String) : RecordField σ :=
  .of name (Reader.optional (Reader.string "a string")) fun _ record => record

/-- The section about the external engine. -/
def engineShape : RecordShape EngineConfig :=
  sectionShape "DecompilerConfig"
    [pathField "cfr_jar" fun archive engine => { engine with archive },
      textField "java" fun machine engine => { engine with machine },
      flagField "hide_lang_imports" fun hideLangImports engine =>
        { engine with options := { engine.options with hideLangImports } },
      flagField "show_version" fun showVersion engine =>
        { engine with options := { engine.options with showVersion } },
      .of "max_staged_classes" (Reader.natural 0x10000000000000000 "usize") fun budget engine =>
        { engine with budget }]

/-- The section about the search for classes. -/
def classpathShape : RecordShape SearchSettings :=
  sectionShape "ClasspathConfig"
    [textField "env_var" fun classpathVariable search => { search with classpathVariable },
      .of "package_inference"
        (Reader.choice [("directory", Inference.directory), ("class_file", .classFile)])
        fun inference search => { search with inference }]

/-- The section about workspaces. -/
def workspaceShape : RecordShape (Option Path) :=
  sectionShape "WorkspaceConfig" [pathField "temp_root" fun root _ => root]

/-- The section about HTTP. -/
def httpShape : RecordShape HttpConfig :=
  sectionShape "HttpConfig"
    [textField "host" fun host http => { http with host },
      .of "port" (Reader.natural UInt16.size "u16") fun port http =>
        { http with port := UInt16.ofNatLT port.1 port.2 }]

/-- The section about the log. -/
def logShape : RecordShape String :=
  sectionShape "LoggingConfig" [textField "level" fun level _ => level]

/-- The whole configuration. -/
def shape : RecordShape Config :=
  sectionShape "Config"
    [remarkField "$schema", remarkField "_comment",
      .of "decompiler" (engineShape.reader {}) fun engine config => { config with engine },
      .of "classpath" (classpathShape.reader {}) fun search config =>
        { config with search :=
          { search with workspaceRoot := config.search.workspaceRoot } },
      .of "workspace" (workspaceShape.reader none) fun workspaceRoot config =>
        { config with search := { config.search with workspaceRoot } },
      .of "http" (httpShape.reader {}) fun http config => { config with http },
      .of "logging" (logShape.reader "warn") fun level config => { config with level }]

/-- The configuration of a text, whether or not it obeys the rules. -/
def ofText (text : String) : Except ReadFault Config :=
  Json.readText (shape.reader {}) text

end DecompileServer.Config
