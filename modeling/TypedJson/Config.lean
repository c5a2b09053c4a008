/-!
# Retype settings

The settings of a retype: the namespace that `[Name]` tags resolve into, where the generated
client lives, and the type given to untagged `Json` fields. Every setting is optional in a
settings file.
-/
namespace TypedJson

def defaultNamespace : String := "PrismaJson"

def configFileName : String := "prisma-json-types.toml"

structure Config where
  typeNamespace : String := defaultNamespace
  clientOutput : Option String := none
  useType : Option String := none
deriving DecidableEq, Repr, Inhabited

end TypedJson
