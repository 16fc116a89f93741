import MarkupValues.Grammar

/-!
# The core types

The types whose values have a grammar here, in the order in which they are registered.
-/

namespace MarkupValues

/-- A type with a grammar: its full name in lower case, the type that is built for it, the types
that the result may mention besides, and how its values are written. -/
structure CoreType where
  key : String
  destination : TypeName
  companions : List TypeName
  grammar : Grammar

/-- The core types. -/
def catalog : List CoreType :=
  [⟨"system.windows.input.cursor", ⟨"System.Windows.Input.Cursor"⟩,
      [⟨"System.Windows.Input.Cursors"⟩], .cursor⟩,
    ⟨"system.windows.media.animation.keytime", ⟨"System.Windows.Media.Animation.KeyTime"⟩,
      [], .keyTime⟩,
    ⟨"system.windows.media.animation.repeatbehavior",
      ⟨"System.Windows.Media.Animation.RepeatBehavior"⟩, [], .repeatBehavior⟩,
    ⟨"system.windows.media.animation.keyspline", ⟨"System.Windows.Media.Animation.KeySpline"⟩,
      [⟨"System.Windows.Point"⟩], .keySpline⟩,
    ⟨"system.windows.media.brush", ⟨"System.Windows.Media.SolidColorBrush"⟩,
      [⟨"System.Windows.Media.Color"⟩], .brush⟩,
    ⟨"system.windows.media.solidcolorbrush", ⟨"System.Windows.Media.SolidColorBrush"⟩,
      [⟨"System.Windows.Media.Color"⟩], .brush⟩,
    ⟨"system.windows.media.color", ⟨"System.Windows.Media.Color"⟩, [], .color⟩,
    ⟨"system.windows.media.doublecollection", ⟨"System.Windows.Media.DoubleCollection"⟩,
      [], .doubleCollection⟩,
    ⟨"system.windows.media.fontfamily", ⟨"System.Windows.Media.FontFamily"⟩, [], .fontFamily⟩,
    ⟨"system.windows.media.geometry", ⟨"System.Windows.Media.Geometry"⟩, [], .geometry⟩,
    ⟨"system.windows.media.pathgeometry", ⟨"System.Windows.Media.PathGeometry"⟩, [], .geometry⟩,
    ⟨"system.windows.media.matrix", ⟨"System.Windows.Media.Matrix"⟩, [], .matrix⟩,
    ⟨"system.windows.media.pointcollection", ⟨"System.Windows.Media.PointCollection"⟩,
      [⟨"System.Windows.Point"⟩], .pointCollection⟩,
    ⟨"system.windows.media.transform", ⟨"System.Windows.Media.MatrixTransform"⟩,
      [⟨"System.Windows.Media.Matrix"⟩], .transform⟩,
    ⟨"system.windows.media.matrixtransform", ⟨"System.Windows.Media.MatrixTransform"⟩,
      [⟨"System.Windows.Media.Matrix"⟩], .transform⟩,
    ⟨"system.windows.media.cachemode", ⟨"System.Windows.Media.CacheMode"⟩,
      [⟨"System.Windows.Media.BitmapCache"⟩], .cacheMode⟩,
    ⟨"system.windows.cornerradius", ⟨"System.Windows.CornerRadius"⟩, [], .cornerRadius⟩,
    ⟨"system.windows.duration", ⟨"System.Windows.Duration"⟩, [], .duration⟩,
    ⟨"system.windows.fontweight", ⟨"System.Windows.FontWeight"⟩,
      [⟨"System.Windows.FontWeights"⟩], .fontWeight⟩,
    ⟨"system.windows.gridlength", ⟨"System.Windows.GridLength"⟩,
      [⟨"System.Windows.GridUnitType"⟩], .gridLength⟩,
    ⟨"system.windows.point", ⟨"System.Windows.Point"⟩, [], .point⟩,
    ⟨"system.windows.propertypath", ⟨"System.Windows.PropertyPath"⟩, [], .propertyPath⟩,
    ⟨"system.windows.rect", ⟨"System.Windows.Rect"⟩, [], .rect⟩,
    ⟨"system.windows.size", ⟨"System.Windows.Size"⟩, [], .size⟩,
    ⟨"system.windows.thickness", ⟨"System.Windows.Thickness"⟩, [], .thickness⟩,
    ⟨"system.windows.fontstretch", ⟨"System.Windows.FontStretch"⟩, [], .fontStretch⟩,
    ⟨"system.windows.fontstyle", ⟨"System.Windows.FontStyle"⟩,
      [⟨"System.Windows.FontStyles"⟩], .fontStyle⟩,
    ⟨"system.windows.textdecorationcollection", ⟨"System.Windows.TextDecorationCollection"⟩,
      [⟨"System.Windows.TextDecorations"⟩], .textDecorations⟩,
    ⟨"system.windows.media.imagesource", ⟨"System.Windows.Media.ImageSource"⟩,
      [⟨"System.Windows.Media.Imaging.BitmapImage"⟩], .imageSource⟩]

end MarkupValues
