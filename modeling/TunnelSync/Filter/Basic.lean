import TunnelSync.Filter.Glob
import TunnelSync.Text.Basic
import TunnelSync.Text.Class

/-!
# Exclusion

A `Filter` is an ordered list of patterns, and it looks at one path component at a time. A name is
excluded if it is equal to a pattern or if a pattern with a wildcard matches it as a glob; a pattern
that breaks the glob grammar still excludes its own spelling.

A name of the built-in list has no use in a remote checkout: it is made anew there, or belongs to
one machine, or is a secret.
-/

namespace TunnelSync

/-! ### Names that are never synced -/

namespace Builtin

/-- Version control. -/
def versionControl : List String :=
  [".git", ".svn", ".hg", ".bzr"]

/-- What package managers install. -/
def dependencies : List String :=
  ["node_modules", "bower_components", "jspm_packages", ".pnpm-store", ".yarn", ".bundle"]

/-- Virtual environments. -/
def environments : List String :=
  [".venv", "venv", "virtualenv", "__pypackages__", ".tox", ".nox"]

/-- What builds produce. -/
def buildOutput : List String :=
  ["dist", "build", "out", "target", ".next", ".nuxt", ".output", ".svelte-kit", ".turbo",
   ".vercel", ".expo", "coverage", ".nyc_output", "*.tsbuildinfo"]

/-- Caches. -/
def caches : List String :=
  [".cache", "__pycache__", ".pytest_cache", ".mypy_cache", ".ruff_cache", ".gradle",
   ".parcel-cache", ".eslintcache", ".sass-cache", ".terraform"]

/-- Secrets and credentials. -/
def secrets : List String :=
  [".env", ".env.*", "*.pem", "*.key", "*.p12", "*.pfx", "*.keystore", "id_rsa", "id_ed25519",
   ".netrc", ".npmrc", "credentials.json"]

/-- What desktops and editors leave behind. -/
def editorFiles : List String :=
  [".DS_Store", "Thumbs.db", "desktop.ini", ".Spotlight-V100", ".Trashes", ".idea", ".vscode",
   "*.swp", "*.swo", "*~"]

/-- Logs. -/
def logs : List String :=
  ["*.log", "logs", "npm-debug.log*", "yarn-debug.log*", "yarn-error.log*", "pnpm-debug.log*"]

/-- Compiled objects. -/
def objects : List String :=
  ["*.pyc", "*.pyo", "*.class", "*.o", "*.obj", "*.so", "*.dylib", "*.dll", "*.exe", "*.a"]

/-- Source maps. -/
def sourceMaps : List String :=
  ["*.map"]

/-- The built-in patterns, in the order in which they are tried. -/
def patterns : List Text :=
  (versionControl ++ dependencies ++ environments ++ buildOutput ++ caches ++ secrets
    ++ editorFiles ++ logs ++ objects ++ sourceMaps).map String.toList

end Builtin

/-! ### Filters -/

/-- An ordered list of exclusion patterns, none of them empty or with blanks around it. -/
structure Filter where
  patterns : List Text
  deriving DecidableEq, Repr

namespace Filter

/-- The filter of the given patterns, each without the blanks around it; blank patterns are
dropped. -/
def ofPatterns (patterns : List Text) : Filter :=
  ⟨(patterns.map Text.trim).filter (!·.isEmpty)⟩

/-- The built-in patterns, and the given ones behind them. -/
def withBuiltin (patterns : List Text) : Filter := ofPatterns (Builtin.patterns ++ patterns)

/-- Whether a pattern has a wildcard. -/
def hasWildcard (pattern : Text) : Bool := pattern.any fun c => c == '*' || c == '?' || c == '['

/-- The glob of a pattern that has a wildcard and keeps to the grammar. -/
def glob? (pattern : Text) : Option Glob :=
  if hasWildcard pattern then Glob.parse? pattern else none

/-- Whether one pattern excludes the name. -/
def patternExcludes (pattern name : Text) : Bool :=
  pattern == name || (glob? pattern).any (·.isMatch name)

/-- Whether the name is not to be synced. -/
def excludes (f : Filter) (name : Text) : Bool := f.patterns.any (patternExcludes · name)

end Filter

end TunnelSync
