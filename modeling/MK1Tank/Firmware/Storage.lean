/-
The config file: `mkh_storage.cpp`.

A save writes a temporary file and renames it over the config file, removing the old
one first.  Boot reads the config file, or writes the compiled-in default when there
is none; a file of an older schema is written back once.
-/
import MK1Tank.Firmware.ConfigParse
import MK1Tank.Lib.FileProgram

namespace MK1Tank

open CString FileProgram

/-- `CONFIG_FILE_PATH` and `CONFIG_TMP_PATH`. -/
inductive Path where
  | config | tmp
deriving DecidableEq

def configSchemaVersionCurrent : Int := 3

def configSchemaHeader : List Char := "# MK1CONFIG_SCHEMA_VERSION=3\n".toList

def defaultConfigText : List Char :=
  "# MK1CONFIG_SCHEMA_VERSION=3\n".toList
    ++ "HUB1_PORT_A = LSNS invert=no max=100 curve=linear\n".toList
    ++ "HUB2_PORT_A = RSNS invert=no max=100 curve=linear\n".toList

/-- `sscanf(first_line, "# MK1CONFIG_SCHEMA_VERSION=%d", ...)`; a blank in a format is any white
space. -/
def parseSchemaVersion (firstLine : List Char) : Int :=
  let scanned : Option (Int × List Char) := do
    let rest ← scanLiteral "#".toList (cStr firstLine)
    let rest ← scanLiteral "MK1CONFIG_SCHEMA_VERSION=".toList (rest.dropWhile isSpace)
    scanInt rest
  match scanned with
  | some (version, _) => version
  | none => 0

/-- `sizeof(buf)` in `mkh_storage_save_config`. -/
def saveBufSize : Nat := 2048

def mkhStorageSaveConfig (cfg : MkhConfig) : Program Path (Bool × MkhConfig) :=
  match mkhConfigSerialize cfg.table saveBufSize with
  | none => .done (false, cfg)
  | some buf =>
    .call (.openWrite .tmp) fun opened =>
      if !opened.ok then .done (false, cfg)
      else
        -- Neither write's return value is looked at.
        .call (.append .tmp configSchemaHeader) fun _ =>
          .call (.append .tmp buf) fun _ =>
            .call (.exist .config) fun present =>
              let renameTmp : Program Path (Bool × MkhConfig) :=
                .call (.rename .tmp .config) fun renamed =>
                  if !renamed.ok then .done (false, cfg)
                  else .done (true, mkhConfigNoteSource cfg true)
              if present.ok then
                .call (.remove .config) fun removed =>
                  if !removed.ok then .done (false, cfg) else renameTmp
              else renameTmp

/-- No file to read: every port keeps its compiled-in default. -/
def useCompiledInDefaults (cfg : MkhConfig) : MkhConfig :=
  mkhConfigApplyCompiledInFallbacks (mkhConfigNoteSource cfg false)

/-- The table a file's lines resolve to. -/
def resolveLines (cfg : MkhConfig) (lines : List (List Char)) : MkhConfig :=
  mkhConfigApplyCompiledInFallbacks (mkhConfigNoteSource (parseLines cfg lines) true)

/-- The version a file declares; -1 for an empty one. -/
def fileSchemaVersion : List (List Char) → Int
  | [] => -1
  | first :: _ => parseSchemaVersion first

def readAndParseConfigFile (cfg : MkhConfig) : Program Path MkhConfig :=
  .call (.read .config) fun file =>
    if !file.ok then .done (useCompiledInDefaults cfg)
    else
      let lines := fileLines file.text
      let version := fileSchemaVersion lines
      let cfg := resolveLines cfg lines
      if version ≥ 0 ∧ version < configSchemaVersionCurrent then
        (mkhStorageSaveConfig cfg).bind fun saved => .done saved.2
      else .done cfg

def mkhStorageBootRead (cfg : MkhConfig) : Program Path MkhConfig :=
  let cfg := mkhConfigSetDefaults cfg
  .call .mount fun mounted =>
    if !mounted.ok then .done (useCompiledInDefaults cfg)
    else
      .call (.exist .config) fun present =>
        if !present.ok then
          .call (.openWrite .config) fun opened =>
            if !opened.ok then .done (useCompiledInDefaults cfg)
            else
              .call (.append .config defaultConfigText) fun _ => readAndParseConfigFile cfg
        else readAndParseConfigFile cfg

def mkhStorageReloadConfig (cfg : MkhConfig) : Program Path MkhConfig :=
  readAndParseConfigFile (mkhConfigSetDefaults cfg)

end MK1Tank
