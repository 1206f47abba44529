/-! How the program calls itself. -/
namespace Timelines.Program

def name : String := "murmur"

def version : String := "0.1.0"

end Timelines.Program
